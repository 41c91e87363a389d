import Workflow.Value.Display

/-!
# JSON text of values

Values are written on one line with a blank after each comma and colon, and with all characters
outside ASCII escaped as units of sixteen bits. Dates, bytes and sets have no JSON form: `write` refuses
them, and `render` writes them as texts. What stands inside itself cannot be written at all.
-/

namespace Workflow.Json

/-- Why a value has no JSON text. -/
inductive WriteError where
  /-- A value of a kind that JSON lacks. -/
  | value (kind : String)
  /-- A key of a kind that JSON lacks. -/
  | key (kind : String)
  /-- A value that stands inside itself. -/
  | loop
  deriving DecidableEq

/-- A unit of sixteen bits, escaped. -/
def unitEscape (code : Nat) : List Char :=
  '\\' :: 'u' :: Text.hex 4 code

/-- One character inside a JSON text; a character beyond sixteen bits becomes a pair of units. -/
def escape (c : Char) : List Char :=
  if c = '"' then ['\\', '"']
  else if c = '\\' then ['\\', '\\']
  else if c = '\n' then ['\\', 'n']
  else if c = '\r' then ['\\', 'r']
  else if c = '\t' then ['\\', 't']
  else if c = '\x08' then ['\\', 'b']
  else if c = '\x0c' then ['\\', 'f']
  else if 32 ≤ c.toNat && c.toNat < 127 then [c]
  else if c.toNat < 0x10000 then unitEscape c.toNat
  else
    let code := c.toNat - 0x10000
    unitEscape (0xd800 + code / 0x400) ++ unitEscape (0xdc00 + code % 0x400)

/-- A text in JSON quotes. -/
def quote (s : String) : List Char :=
  '"' :: (s.toList.flatMap escape ++ ['"'])

/-- The text of a scalar; a date is written as a text. -/
def scalar : Scalar → List Char
  | .null => "null".toList
  | .bool true => "true".toList
  | .bool false => "false".toList
  | .int value => (toString value).toList
  | .float value => (value.text Number.jsonLayout).toList
  | .text value => quote value
  | other => quote other.plain

/-- The text of a key: the JSON text of the scalar, in quotes. -/
def key : Scalar → List Char
  | .text value => quote value
  | .date value => quote (Scalar.date value).plain
  | .timestamp value => quote (Scalar.timestamp value).plain
  | .bytes content => quote (Scalar.bytes content).plain
  | other => '"' :: (scalar other ++ ['"'])

mutual

/-- The characters of the JSON text of a value. -/
def chars : Value → List Char
  | .scalar value => scalar value
  | .list [] => ['[', ']']
  | .list (item :: rest) => '[' :: (chars item ++ itemsTail rest)
  | .group [] => ['[', ']']
  | .group (item :: rest) => '[' :: (chars item ++ itemsTail rest)
  | .set members => quote (Value.set members).display
  | .loop levels isList => quote (Value.loop levels isList).display
  | .dict [] => ['\x7b', '\x7d']
  | .dict ((name, value) :: rest) =>
    '\x7b' :: (key name ++ ':' :: ' ' :: (chars value ++ entriesTail rest))

/-- The items of a list after its first, and the closing bracket. -/
def itemsTail : List Value → List Char
  | [] => [']']
  | item :: rest => ',' :: ' ' :: (chars item ++ itemsTail rest)

/-- The entries of a mapping after its first, and the closing brace. -/
def entriesTail : List (Scalar × Value) → List Char
  | [] => ['\x7d']
  | (name, value) :: rest =>
    ',' :: ' ' :: (key name ++ ':' :: ' ' :: (chars value ++ entriesTail rest))

end

/-- The JSON text of a value, with dates written as texts. -/
def render (value : Value) : String :=
  String.ofList (chars value)

/-- Whether a scalar has no JSON form of its own. -/
def isForeign : Scalar → Bool
  | .date _ => true
  | .timestamp _ => true
  | .bytes _ => true
  | _ => false

/-- What makes a scalar unfit as a value, unless dates are written as texts. -/
def scalarFault? (datesAsTexts : Bool) (value : Scalar) : Option WriteError :=
  if isForeign value && !datesAsTexts then some (.value (Value.scalar value).kindName) else none

/-- What makes a scalar unfit as a key. -/
def keyFault? (value : Scalar) : Option WriteError :=
  if isForeign value then some (.key (Value.scalar value).kindName) else none

mutual

/-- The first part of a value that has no JSON form, in the order of writing. -/
def fault? (datesAsTexts : Bool) : Value → Option WriteError
  | .scalar value => scalarFault? datesAsTexts value
  | .list items => itemsFault? datesAsTexts items
  | .group items => itemsFault? datesAsTexts items
  | .set members => if datesAsTexts then none else some (.value (Value.set members).kindName)
  | .loop _ _ => some .loop
  | .dict entries => entriesFault? datesAsTexts entries

/-- The first part of a list of values that has no JSON form. -/
def itemsFault? (datesAsTexts : Bool) : List Value → Option WriteError
  | [] => none
  | item :: rest => (fault? datesAsTexts item).or (itemsFault? datesAsTexts rest)

/-- The first part of the entries of a mapping that has no JSON form. -/
def entriesFault? (datesAsTexts : Bool) : List (Scalar × Value) → Option WriteError
  | [] => none
  | (name, value) :: rest =>
    (keyFault? name).or ((fault? datesAsTexts value).or (entriesFault? datesAsTexts rest))

end

/-- The JSON text of a value all of whose parts have a JSON form. -/
def write (value : Value) : Except WriteError String :=
  match fault? false value with
  | none => .ok (render value)
  | some error => .error error

/-- The JSON text of a value, with dates as texts; a date as a key is refused. -/
def writeWithDates (value : Value) : Except WriteError String :=
  match fault? true value with
  | none => .ok (render value)
  | some error => .error error

end Workflow.Json
