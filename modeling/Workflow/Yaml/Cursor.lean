import Workflow.Text.Encoding

/-!
# Places in a YAML document

A cursor is what is left of a document, with its line and column. The end of the document reads as a
NUL, which no document may hold.
-/

namespace Workflow.Yaml

/-- Why a document is not read. -/
inductive YamlError where
  /-- It breaks a rule of the language. -/
  | malformed
  /-- A scalar has no value of the kind that its form or its tag calls for. -/
  | kind (kind text : String)
  deriving DecidableEq

/-- A place in a document. -/
structure Cursor where
  rest : List Char
  line : Nat
  column : Nat
  /-- How many characters lie before. -/
  index : Nat

/-- What reads as the end of a document. -/
def endMark : Char := '\x00'

/-- Whether a character ends a line. -/
def isBreak (c : Char) : Bool :=
  c = '\r' || c = '\n' || c = '\x85' || c = '\u2028' || c = '\u2029'

/-- Whether a character ends a line or the document. -/
def endsLine (c : Char) : Bool :=
  c = endMark || isBreak c

/-- Whether a character ends a line or the document, or is a space. -/
def endsWord (c : Char) : Bool :=
  c = ' ' || endsLine c

/-- Whether a character ends a line or the document, or is a space or a tab. -/
def isGap (c : Char) : Bool :=
  c = '\t' || endsWord c

/-- Whether a character may stand in a document. -/
def isAllowed (c : Char) : Bool :=
  let code := c.toNat
  code = 0x09 || code = 0x0A || code = 0x0D || (0x20 ≤ code && code ≤ 0x7E) || code = 0x85 ||
    (0xA0 ≤ code && code ≤ 0xD7FF) || (0xE000 ≤ code && code ≤ 0xFFFD) || 0x10000 ≤ code

namespace Cursor

/-- The start of a document. -/
def ofText (cs : List Char) : Cursor := ⟨cs, 0, 0, 0⟩

/-- The character that lies so many characters ahead. -/
def peek (cursor : Cursor) (ahead : Nat) : Char :=
  cursor.rest.getD ahead endMark

/-- The next character. -/
def here (cursor : Cursor) : Char := cursor.peek 0

/-- The place after the next character. -/
def advance (cursor : Cursor) : Cursor :=
  match cursor.rest with
  | [] => cursor
  | c :: rest =>
    if isBreak c && !(c = '\r' && rest.head? = some '\n') then
      ⟨rest, cursor.line + 1, 0, cursor.index + 1⟩
    else if c = '\uFEFF' then { cursor with rest, index := cursor.index + 1 }
    else { cursor with rest, column := cursor.column + 1, index := cursor.index + 1 }

/-- The place after so many characters. -/
def skip (cursor : Cursor) : (count : Nat) → Cursor
  | 0 => cursor
  | count + 1 => cursor.advance.skip count

/-- The characters up to the first that does not belong, and the place after them. -/
def takeWhile (cursor : Cursor) (belongs : Char → Bool) : List Char × Cursor :=
  let taken := cursor.rest.takeWhile belongs
  (taken, cursor.skip taken.length)

/-- The place after all characters that belong. -/
def skipWhile (cursor : Cursor) (belongs : Char → Bool) : Cursor :=
  (cursor.takeWhile belongs).2

/-- A line break as it counts in a scalar, and the place after it; nothing if there is none. -/
def lineBreak (cursor : Cursor) : List Char × Cursor :=
  let c := cursor.here
  if !isBreak c then ([], cursor)
  else if c = '\u2028' || c = '\u2029' then ([c], cursor.advance)
  else if c = '\r' && cursor.peek 1 = '\n' then (['\n'], cursor.skip 2)
  else (['\n'], cursor.advance)

/-- Whether three equal marks and a gap lie ahead. -/
def standsAt (cursor : Cursor) (mark : Char) : Bool :=
  cursor.rest.take 3 == [mark, mark, mark] && isGap (cursor.peek 3)

/-- Whether a mark between documents lies ahead. -/
def atSeparator (cursor : Cursor) : Bool :=
  cursor.standsAt '-' || cursor.standsAt '.'

/-- The place after spaces and a comment. -/
def skipComment (cursor : Cursor) : Cursor :=
  let cursor := cursor.skipWhile (· = ' ')
  if cursor.here = '#' then cursor.skipWhile (!endsLine ·) else cursor

/-- The place after the rest of a line that holds nothing but a comment. -/
def restOfLine (cursor : Cursor) : Except YamlError Cursor :=
  let cursor := cursor.skipComment
  if endsLine cursor.here then .ok cursor.lineBreak.2 else .error .malformed

/-- A bound on the steps that reading on from a place may take. -/
def steps (cursor : Cursor) : Nat :=
  cursor.rest.length + 1

end Cursor

end Workflow.Yaml
