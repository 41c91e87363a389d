import Workflow.Json.Reader
import Workflow.Yaml.Cursor

/-!
# Scalars of YAML

The forms in which a scalar is written: plain, between quotes, and as a block of lines. Each reader
takes the place of the first character and gives the text of the scalar and the place after it.
-/

namespace Workflow.Yaml

/-- A text that was read, and the place after it. -/
abbrev ReadText := Except YamlError (List Char × Cursor)

/-- The characters of a plain scalar up to the first that cannot stand in it. -/
def plainRun (inFlow : Bool) : List Char → List Char
  | [] => []
  | c :: rest =>
    let next := rest.headD endMark
    let endsKey := c = ':' && (isGap next || inFlow && [',', '[', ']', '{', '}'].contains next)
    let endsItem := inFlow && [',', '?', '[', ']', '{', '}'].contains c
    if isGap c || endsKey || endsItem then [] else c :: plainRun inFlow rest

/-- The spaces and line breaks between two parts of a plain scalar. -/
structure PlainGap where
  text : List Char
  cursor : Cursor
  /-- Whether a line was ended. -/
  brokeLine : Bool

/-- The line breaks and spaces after the end of a line of a plain scalar; nothing if a mark between
documents follows. -/
def plainBreaks : (fuel : Nat) → Cursor → List Char → Option (List Char) × Cursor
  | 0, cursor, breaks => (some breaks, cursor)
  | fuel + 1, cursor, breaks =>
    if cursor.here = ' ' then plainBreaks fuel cursor.advance breaks
    else if isBreak cursor.here then
      let (lineBreak, cursor) := cursor.lineBreak
      if cursor.atSeparator then (none, cursor)
      else plainBreaks fuel cursor (breaks ++ lineBreak)
    else (some breaks, cursor)

/-- A line break followed by others, as they count in a scalar: a single one is a space. -/
def foldedBreaks (lineBreak breaks : List Char) : List Char :=
  if lineBreak ≠ ['\n'] then lineBreak ++ breaks
  else if breaks.isEmpty then [' '] else breaks

/-- What lies between two parts of a plain scalar. -/
def plainGap (cursor : Cursor) : PlainGap :=
  let (spaces, cursor) := cursor.takeWhile (· = ' ')
  if isBreak cursor.here then
    let (lineBreak, cursor) := cursor.lineBreak
    if cursor.atSeparator then ⟨[], cursor, true⟩
    else match plainBreaks cursor.steps cursor [] with
      | (some breaks, cursor) => ⟨foldedBreaks lineBreak breaks, cursor, true⟩
      | (none, cursor) => ⟨[], cursor, true⟩
  else ⟨spaces, cursor, false⟩

/-- The parts of a plain scalar from a place on, after the given gap. -/
def plainParts (inFlow : Bool) (indent : Int) :
    (fuel : Nat) → Cursor → (gap : List Char) → (brokeLine : Bool) → List Char × Cursor × Bool
  | 0, cursor, _, brokeLine => ([], cursor, brokeLine)
  | fuel + 1, cursor, gap, brokeLine =>
    let run := if cursor.here = '#' then [] else plainRun inFlow cursor.rest
    if run.isEmpty then ([], cursor, brokeLine)
    else
      let next := plainGap (cursor.skip run.length)
      let stops := next.text.isEmpty || next.cursor.here = '#' ||
        (!inFlow && (next.cursor.column : Int) < indent)
      if stops then (gap ++ run, next.cursor, next.brokeLine)
      else
        let (more, cursor, brokeLine) := plainParts inFlow indent fuel next.cursor next.text next.brokeLine
        (gap ++ run ++ more, cursor, brokeLine)

/-- Reads a plain scalar inside the given indentation. Also tells whether its last gap ended a line. -/
def plain (inFlow : Bool) (indent : Int) (cursor : Cursor) : List Char × Cursor × Bool :=
  plainParts inFlow (indent + 1) cursor.steps cursor [] false

/-- What the letter of an escape stands for. -/
def escapes : List (Char × Char) :=
  [('0', '\x00'), ('a', '\x07'), ('b', '\x08'), ('t', '\x09'), ('\t', '\x09'), ('n', '\n'),
    ('v', '\x0B'), ('f', '\x0C'), ('r', '\r'), ('e', '\x1B'), (' ', ' '), ('\"', '\"'), ('\\', '\\'),
    ('/', '/'), ('N', '\x85'), ('_', '\xA0'), ('L', '\u2028'), ('P', '\u2029')]

/-- How many digits follow the letter of an escape of a code. -/
def codeLengths : List (Char × Nat) := [('x', 2), ('u', 4), ('U', 8)]

/-- Reads the digits of an escape of a code. -/
def codeEscape (count : Nat) (cursor : Cursor) : ReadText :=
  let digits := (cursor.rest.take count).map Json.hexValue?
  if digits.length < count || digits.any (·.isNone) then .error .malformed
  else
    let code := digits.foldl (fun total digit => 16 * total + digit.getD 0) 0
    if 0x7FFFFFFF < code then .error (.kind "OverflowError" "code too large")
    else if 0x10FFFF < code then .error (.kind "ValueError" "chr() arg not in range(0x110000)")
    else .ok ([Text.codeChar code], cursor.skip count)

/-- The line breaks inside a quoted scalar, with the spaces around them left out. -/
def quotedBreaks : (fuel : Nat) → Cursor → ReadText
  | 0, cursor => .ok ([], cursor)
  | fuel + 1, cursor =>
    if cursor.atSeparator then .error .malformed
    else
      let cursor := cursor.skipWhile fun c => c = ' ' || c = '\t'
      if isBreak cursor.here then do
        let (lineBreak, cursor) := cursor.lineBreak
        let (more, cursor) ← quotedBreaks fuel cursor
        .ok (lineBreak ++ more, cursor)
      else .ok ([], cursor)

/-- Reads what a backslash begins. -/
def escape (cursor : Cursor) : ReadText :=
  let c := cursor.here
  match escapes.lookup c, codeLengths.lookup c with
  | some char, _ => .ok ([char], cursor.advance)
  | none, some count => codeEscape count cursor.advance
  | none, none =>
    if isBreak c then quotedBreaks cursor.steps cursor.lineBreak.2 else .error .malformed

/-- The spaces and line breaks between two words of a quoted scalar. -/
def quotedGap (cursor : Cursor) : ReadText :=
  let (spaces, cursor) := cursor.takeWhile fun c => c = ' ' || c = '\t'
  if cursor.here = endMark then .error .malformed
  else if isBreak cursor.here then do
    let (lineBreak, cursor) := cursor.lineBreak
    let (breaks, cursor) ← quotedBreaks cursor.steps cursor
    .ok (foldedBreaks lineBreak breaks, cursor)
  else .ok (spaces, cursor)

/-- The rest of a quoted scalar, up to and with its closing quote. -/
def quotedRest (double : Bool) : (fuel : Nat) → Cursor → ReadText
  | 0, _ => .error .malformed
  | fuel + 1, cursor => do
    let continued (part : List Char) (cursor : Cursor) : ReadText := do
      let (more, cursor) ← quotedRest double fuel cursor
      .ok (part ++ more, cursor)
    let c := cursor.here
    if c = '\'' && !double then
      if cursor.peek 1 = '\'' then continued ['\''] (cursor.skip 2) else .ok ([], cursor.advance)
    else if c = '\"' && double then .ok ([], cursor.advance)
    else if c = '\\' && double then do
      let (part, cursor) ← escape cursor.advance
      continued part cursor
    else if isGap c then do
      let (part, cursor) ← quotedGap cursor
      continued part cursor
    else continued [c] cursor.advance

/-- Reads a scalar between quotes. -/
def quoted (double : Bool) (cursor : Cursor) : ReadText :=
  quotedRest double cursor.steps cursor.advance

/-- What becomes of the line breaks at the end of a block. -/
inductive Chomping where
  /-- All are left out. -/
  | strip
  /-- One is kept. -/
  | clip
  /-- All are kept. -/
  | keep
  deriving DecidableEq

/-- Reads what becomes of the last line breaks, if it is told. -/
def chomping? (c : Char) : Option Chomping :=
  if c = '+' then some .keep else if c = '-' then some .strip else none

/-- Reads the indentation of a block, if it is told: a digit other than nought. -/
def increment? (cursor : Cursor) : Except YamlError (Option Nat × Cursor) :=
  let c := cursor.here
  if c = '0' then .error .malformed
  else if c.isDigit then .ok (some (c.toNat - 48), cursor.advance)
  else .ok (none, cursor)

/-- Reads the marks that begin a block. -/
def blockHeader (cursor : Cursor) : Except YamlError (Chomping × Option Nat × Cursor) := do
  let (chomping, increment, cursor) ← match chomping? cursor.here with
    | some chomping => do
      let (increment, cursor) ← increment? cursor.advance
      pure (chomping, increment, cursor)
    | none => do
      let (increment, cursor) ← increment? cursor
      match increment, chomping? cursor.here with
      | some _, some chomping => pure (chomping, increment, cursor.advance)
      | _, _ => pure (.clip, increment, cursor)
  if endsWord cursor.here then do .ok (chomping, increment, ← cursor.restOfLine)
  else .error .malformed

/-- The empty lines at the start of a block, and the widest indentation among them. -/
def blockStart : (fuel : Nat) → Cursor → (widest : Nat) → List Char × Nat × Cursor
  | 0, cursor, widest => ([], widest, cursor)
  | fuel + 1, cursor, widest =>
    if cursor.here = ' ' then
      let cursor := cursor.advance
      blockStart fuel cursor (max widest cursor.column)
    else if isBreak cursor.here then
      let (lineBreak, cursor) := cursor.lineBreak
      let (breaks, widest, cursor) := blockStart fuel cursor widest
      (lineBreak ++ breaks, widest, cursor)
    else ([], widest, cursor)

/-- The place after spaces up to an indentation. -/
def skipIndent (indent : Nat) (cursor : Cursor) : Cursor :=
  cursor.skip ((cursor.rest.takeWhile (· = ' ')).length.min (indent - cursor.column))

/-- The empty lines inside a block of the given indentation. -/
def blockBreaks (indent : Nat) : (fuel : Nat) → Cursor → List Char × Cursor
  | 0, cursor => ([], cursor)
  | fuel + 1, cursor =>
    let cursor := skipIndent indent cursor
    if isBreak cursor.here then
      let (lineBreak, cursor) := cursor.lineBreak
      let (breaks, cursor) := blockBreaks indent fuel cursor
      (lineBreak ++ breaks, cursor)
    else ([], cursor)

/-- The lines of a block, after the given empty lines. -/
def blockLines (folded : Bool) (chomping : Chomping) (indent : Nat) :
    (fuel : Nat) → Cursor → (breaks : List Char) → List Char × Cursor
  | 0, cursor, _ => ([], cursor)
  | fuel + 1, cursor, breaks =>
    let indented (c : Char) : Bool := c = ' ' || c = '\t'
    let (line, after) := cursor.takeWhile (!endsLine ·)
    let (lineBreak, after) := after.lineBreak
    let (more, next) := blockBreaks indent after.steps after
    if next.column = indent ∧ next.here ≠ endMark then
      let joint :=
        if folded && lineBreak = ['\n'] && !indented cursor.here && !indented next.here then
          if more.isEmpty then [' '] else []
        else lineBreak
      let (tail, last) := blockLines folded chomping indent fuel next more
      (breaks ++ line ++ joint ++ tail, last)
    else
      let tail := match chomping with
        | .strip => []
        | .clip => lineBreak
        | .keep => lineBreak ++ more
      (breaks ++ line ++ tail, next)

/-- Reads a block of lines inside the given indentation. -/
def block (folded : Bool) (indent : Int) (cursor : Cursor) : ReadText := do
  let (chomping, increment, cursor) ← blockHeader cursor.advance
  let least := (indent + 1).toNat.max 1
  let (breaks, indent, cursor) := match increment with
    | some increment =>
      let indent := least + increment - 1
      let (breaks, cursor) := blockBreaks indent cursor.steps cursor
      (breaks, indent, cursor)
    | none =>
      let (breaks, widest, cursor) := blockStart cursor.steps cursor 0
      (breaks, least.max widest, cursor)
  if cursor.column = indent ∧ cursor.here ≠ endMark then
    .ok (blockLines folded chomping indent cursor.steps cursor breaks)
  else .ok (if chomping = .keep then breaks else [], cursor)

end Workflow.Yaml
