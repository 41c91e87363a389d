import Workflow.Http.Percent
import Workflow.Number.Numeral
import Workflow.Yaml.Scalar

/-!
# Tokens of YAML

The marks, names and scalars of a document in their order. Indentation becomes tokens of its own: where
a block begins and ends. A key without a mark of its own is known only by the colon after it; until then
every place where one may have begun is kept in mind.
-/

namespace Workflow.Yaml

/-- What a directive says. -/
inductive Directive where
  /-- The document is of a version of the language. -/
  | version (major : Nat)
  /-- A handle stands for the beginning of tags. -/
  | handle (handle replacement : String)
  | unknown

/-- A token of a document. -/
inductive Token where
  | directive (directive : Directive)
  | documentStart
  | documentEnd
  | blockSequenceStart
  | blockMappingStart
  | blockEnd
  | flowSequenceStart
  | flowSequenceEnd
  | flowMappingStart
  | flowMappingEnd
  | blockEntry
  | flowEntry
  | key
  | value
  | alias (name : String)
  | anchor (name : String)
  /-- A tag; without a handle the rest of it stands for itself. -/
  | tag (handle : Option String) (rest : String)
  | scalar (text : String) (isPlain : Bool)

/-- A place where a key may have begun. -/
structure KeyPlace where
  /-- How many tokens lie before. -/
  token : Nat
  /-- Whether nothing but a key can stand there. -/
  required : Bool
  line : Nat
  column : Nat
  index : Nat

/-- What is known while tokens are read. -/
structure Scanner where
  cursor : Cursor
  tokens : Array Token
  /-- How many brackets are open. -/
  depth : Nat
  /-- The column of the innermost block, or -1. -/
  indent : Int
  /-- The columns of the blocks around it. -/
  outer : List Int
  /-- Whether a key may begin here. -/
  keyAllowed : Bool
  /-- The places where a key may have begun, by the number of open brackets. -/
  keys : List (Nat × KeyPlace)

/-- Reading tokens. -/
abbrev Scan := StateT Scanner (Except YamlError)

namespace Scan

/-- Refuses the document. -/
def refuse {α : Type} : Scan α := throw .malformed

/-- The place that was reached. -/
def cursor : Scan Cursor := return (← get).cursor

/-- Goes on from a place. -/
def goTo (cursor : Cursor) : Scan Unit := modify fun scanner => { scanner with cursor }

/-- Adds a token. -/
def push (token : Token) : Scan Unit :=
  modify fun scanner => { scanner with tokens := scanner.tokens.push token }

/-- Says whether a key may begin here. -/
def allowKey (allowed : Bool) : Scan Unit :=
  modify fun scanner => { scanner with keyAllowed := allowed }

/-- The longest key without a mark of its own. -/
def longestKey : Nat := 1024

/-- Whether a place is too far behind to be that of a key. -/
def isStale (cursor : Cursor) (place : KeyPlace) : Bool :=
  place.line != cursor.line || longestKey < cursor.index - place.index

/-- Forgets the places that are too far behind to be those of keys. -/
def dropStaleKeys : Scan Unit := do
  let scanner ← get
  let stale := scanner.keys.filter fun (_, place) => isStale scanner.cursor place
  if stale.any (·.2.required) then refuse
  else set { scanner with
    keys := scanner.keys.filter fun (_, place) => !isStale scanner.cursor place }

/-- Forgets the place of a key at the present number of open brackets. -/
def dropKey : Scan Unit := do
  let scanner ← get
  match scanner.keys.lookup scanner.depth with
  | none => pure ()
  | some place =>
    if place.required then refuse
    else set { scanner with keys := scanner.keys.filter (·.1 != scanner.depth) }

/-- Keeps the present place in mind if a key may begin here. -/
def keepKey : Scan Unit := do
  let scanner ← get
  if scanner.keyAllowed then
    dropKey
    let here := scanner.cursor
    let place : KeyPlace :=
      ⟨scanner.tokens.size, scanner.depth = 0 && scanner.indent = here.column, here.line, here.column,
        here.index⟩
    modify fun scanner => { scanner with keys := (scanner.depth, place) :: scanner.keys }

/-- Ends the blocks that lie deeper than a column. -/
def unwind (column : Int) : Scan Unit :=
  modify fun scanner =>
    if scanner.depth != 0 then scanner
    else
      let columns := scanner.indent :: scanner.outer
      let ended := columns.takeWhile (column < ·)
      match columns.drop ended.length with
      | [] => scanner
      | indent :: outer =>
        { scanner with indent, outer,
                       tokens := scanner.tokens ++ Array.replicate ended.length Token.blockEnd }

/-- Begins a block at a column, unless one has begun there; tells whether it did. -/
def indentTo (column : Nat) : Scan Bool :=
  modifyGet fun scanner =>
    if scanner.indent < (column : Int) then
      (true, { scanner with indent := column, outer := scanner.indent :: scanner.outer })
    else (false, scanner)

/-- Goes on to the next token: past spaces, comments and line breaks. -/
def skipToToken : (fuel : Nat) → Scan Unit
  | 0 => pure ()
  | fuel + 1 => do
    let cursor := (← cursor).skipComment
    if isBreak cursor.here then
      goTo cursor.lineBreak.2
      if (← get).depth = 0 then allowKey true
      skipToToken fuel
    else goTo cursor

/-- Adds a token of so many characters. -/
def mark (token : Token) (length : Nat) : Scan Unit := do
  goTo ((← cursor).skip length)
  push token

/-- Whether a character may stand in a name. -/
def isNameChar (c : Char) : Bool :=
  c.isAlphanum || c = '-' || c = '_'

/-- Whether a character may stand in a tag. -/
def isTagChar (c : Char) : Bool :=
  c.isAlphanum || "-;/?:@&=+$,_.!~*'()[]%".toList.contains c

/-- Reads the characters of a tag, at least one; encoded ones are decoded. -/
def tagText (cursor : Cursor) : Except YamlError (String × Cursor) :=
  let (cs, after) := cursor.takeWhile isTagChar
  let isEscape (index : Nat) : Bool :=
    ((cs.drop (index + 1)).take 2).length = 2 &&
      ((cs.drop (index + 1)).take 2).all fun c => (Json.hexValue? c).isSome
  if cs.isEmpty then .error .malformed
  else if !(List.range cs.length).all fun index => cs[index]? != some '%' || isEscape index then
    .error .malformed
  else match Text.decodeUtf8? false (Http.percentDecoded (String.ofList cs).toUTF8.toList) with
    | some text => .ok (text, after)
    | none => .error .malformed

/-- Reads the handle of a tag: one mark, or a name between two. -/
def tagHandle (cursor : Cursor) : Except YamlError (String × Cursor) :=
  if cursor.here ≠ '!' then .error .malformed
  else if cursor.peek 1 = ' ' then .ok ("!", cursor.advance)
  else
    let (name, after) := cursor.advance.takeWhile isNameChar
    if after.here = '!' then .ok (String.ofList ('!' :: name ++ ['!']), after.advance)
    else .error .malformed

/-- Reads the digits of a version. -/
def versionNumber (cursor : Cursor) : Except YamlError (Nat × Cursor) :=
  let (digits, after) := cursor.takeWhile Char.isDigit
  if digits.isEmpty then .error .malformed
  else .ok (Number.digitsValue (digits.map fun c => c.toNat - 48), after)

/-- Reads what a directive says, given its name. -/
def directiveValue (name : String) (cursor : Cursor) : Except YamlError (Directive × Cursor) := do
  let start := cursor.skipWhile (· = ' ')
  match name with
  | "YAML" => do
    let (major, cursor) ← versionNumber start
    if cursor.here ≠ '.' then .error .malformed
    let (_, cursor) ← versionNumber cursor.advance
    if endsWord cursor.here then .ok (.version major, cursor) else .error .malformed
  | "TAG" => do
    let (handle, cursor) ← tagHandle start
    if cursor.here ≠ ' ' then .error .malformed
    let (replacement, cursor) ← tagText (cursor.skipWhile (· = ' '))
    if endsWord cursor.here then .ok (.handle handle replacement, cursor) else .error .malformed
  | _ => .ok (.unknown, cursor.skipWhile (!endsLine ·))

/-- Reads a directive. -/
def directive : Scan Unit := do
  unwind (-1)
  dropKey
  allowKey false
  let (name, cursor) := (← cursor).advance.takeWhile isNameChar
  if name.isEmpty || !endsWord cursor.here then refuse
  let (directive, cursor) ← directiveValue (String.ofList name) cursor
  goTo (← cursor.restOfLine)
  push (.directive directive)

/-- Reads a mark between documents. -/
def separator (token : Token) : Scan Unit := do
  unwind (-1)
  dropKey
  allowKey false
  mark token 3

/-- Opens a bracket. -/
def openFlow (token : Token) : Scan Unit := do
  keepKey
  modify fun scanner => { scanner with depth := scanner.depth + 1 }
  allowKey true
  mark token 1

/-- Closes a bracket. -/
def closeFlow (token : Token) : Scan Unit := do
  dropKey
  if (← get).depth = 0 then refuse
  modify fun scanner => { scanner with depth := scanner.depth - 1 }
  allowKey false
  mark token 1

/-- Ends an item between brackets. -/
def flowEntry : Scan Unit := do
  allowKey true
  dropKey
  mark .flowEntry 1

/-- Begins a block at the present column if need be, where a key may begin. -/
def beginBlock (start : Token) : Scan Unit := do
  let scanner ← get
  if scanner.depth = 0 then
    if !scanner.keyAllowed then refuse
    if ← indentTo scanner.cursor.column then push start

/-- Begins an item of a block. -/
def blockEntry : Scan Unit := do
  beginBlock .blockSequenceStart
  allowKey true
  dropKey
  mark .blockEntry 1

/-- Begins a key that has a mark of its own. -/
def explicitKey : Scan Unit := do
  beginBlock .blockMappingStart
  allowKey ((← get).depth = 0)
  dropKey
  mark .key 1

/-- Puts a token in at a place. -/
def insert (place : Nat) (token : Token) : Scan Unit :=
  modify fun scanner => { scanner with tokens := scanner.tokens.insertIdxIfInBounds place token }

/-- Begins the value of a key. A key that began without a mark gets one now. -/
def value : Scan Unit := do
  let scanner ← get
  match scanner.keys.lookup scanner.depth with
  | some place => do
    set { scanner with keys := scanner.keys.filter (·.1 != scanner.depth) }
    insert place.token .key
    if scanner.depth = 0 then
      if ← indentTo place.column then insert place.token .blockMappingStart
    allowKey false
  | none => do
    beginBlock .blockMappingStart
    allowKey (scanner.depth = 0)
    dropKey
  mark .value 1

/-- Reads the name of an alias or an anchor. -/
def name (token : String → Token) : Scan Unit := do
  keepKey
  allowKey false
  let (name, after) := (← cursor).advance.takeWhile isNameChar
  let ends (c : Char) : Bool := isGap c || "?:,]\x7d%@\x60".toList.contains c
  if name.isEmpty || !ends after.here then refuse
  goTo after
  push (token (String.ofList name))

/-- Reads a tag. -/
def tag : Scan Unit := do
  keepKey
  allowKey false
  let start ← cursor
  let next := start.peek 1
  let (token, after) ←
    if next = '<' then do
      let (text, after) ← tagText (start.skip 2)
      if after.here ≠ '>' then refuse
      pure (Token.tag none text, after.advance)
    else if isGap next then pure (.tag none "!", start.advance)
    else do
      let word := start.advance.rest.takeWhile (!endsWord ·)
      let (handle, after) ←
        if word.contains '!' then do
          let (handle, after) ← tagHandle start
          pure (handle, after)
        else pure ("!", start.advance)
      let (text, after) ← tagText after
      pure (.tag (some handle) text, after)
  if !endsWord after.here then refuse
  goTo after
  push token

/-- Reads a block of lines. -/
def blockScalar (folded : Bool) : Scan Unit := do
  allowKey true
  dropKey
  let scanner ← get
  let (text, after) ← block folded scanner.indent scanner.cursor
  goTo after
  push (.scalar (String.ofList text) false)

/-- Reads a scalar between quotes. -/
def quotedScalar (double : Bool) : Scan Unit := do
  keepKey
  allowKey false
  let (text, after) ← quoted double (← cursor)
  goTo after
  push (.scalar (String.ofList text) false)

/-- Reads a plain scalar. -/
def plainScalar : Scan Unit := do
  keepKey
  let scanner ← get
  let (text, after, brokeLine) := plain (scanner.depth != 0) scanner.indent scanner.cursor
  allowKey brokeLine
  goTo after
  push (.scalar (String.ofList text) true)

/-- Whether a plain scalar begins at a place. -/
def beginsPlain (inFlow : Bool) (cursor : Cursor) : Bool :=
  let c := cursor.here
  let isMark := isGap c || "-?:,[]\x7b\x7d#&*!|>\x27\"%@\x60".toList.contains c
  !isMark || !isGap (cursor.peek 1) && (c = '-' || !inFlow && (c = '?' || c = ':'))

/-- Reads the token at the present place. -/
def token : Scan Unit := do
  let scanner ← get
  let cursor := scanner.cursor
  let inFlow := scanner.depth != 0
  let stands := isGap (cursor.peek 1)
  match cursor.here with
  | '[' => openFlow .flowSequenceStart
  | '{' => openFlow .flowMappingStart
  | ']' => closeFlow .flowSequenceEnd
  | '}' => closeFlow .flowMappingEnd
  | ',' => flowEntry
  | '*' => name .alias
  | '&' => name .anchor
  | '!' => tag
  | '\'' => quotedScalar false
  | '\"' => quotedScalar true
  | c =>
    if cursor.column = 0 && c = '%' then directive
    else if cursor.column = 0 && cursor.standsAt '-' then separator .documentStart
    else if cursor.column = 0 && cursor.standsAt '.' then separator .documentEnd
    else if c = '-' && stands then blockEntry
    else if c = '?' && (inFlow || stands) then explicitKey
    else if c = ':' && (inFlow || stands) then value
    else if (c = '|' || c = '>') && !inFlow then blockScalar (c = '>')
    else if beginsPlain inFlow cursor then plainScalar
    else refuse

/-- Reads the next token, and tells whether there was one. -/
def step : Scan Bool := do
  let start ← cursor
  skipToToken start.steps
  dropStaleKeys
  let cursor ← cursor
  unwind cursor.column
  if cursor.rest.isEmpty then
    unwind (-1)
    dropKey
    return false
  else
    token
    return true

end Scan

/-- The tokens of a document as far as they can be read, and the error that keeps the rest from being
read. -/
structure Tokens where
  tokens : List Token
  error : Option YamlError

namespace Scanner

/-- The tokens that are settled: those before the first place where a key may have begun. -/
def settled (scanner : Scanner) : List Token :=
  let pending := scanner.keys.filter fun (_, place) => !Scan.isStale scanner.cursor place
  scanner.tokens.toList.take
    (pending.foldl (fun least (_, place) => min least place.token) scanner.tokens.size)

/-- Reads all tokens from the present place on. -/
def run : (fuel : Nat) → Scanner → Tokens
  | 0, scanner => ⟨scanner.settled, some .malformed⟩
  | fuel + 1, scanner =>
    match Scan.step.run scanner with
    | .error error => ⟨scanner.settled, some error⟩
    | .ok (true, next) => run fuel next
    | .ok (false, last) => ⟨last.tokens.toList, none⟩

end Scanner

/-- The tokens of a document, all of whose characters have to be allowed ones. -/
def tokenize (text : String) : Tokens :=
  let cs := text.toList
  let start := Cursor.ofText cs
  let cursor := if start.here = '\uFEFF' then start.advance else start
  if cs.all isAllowed then Scanner.run (cs.length + 1) ⟨cursor, #[], 0, -1, [], true, []⟩
  else ⟨[], some .malformed⟩

end Workflow.Yaml
