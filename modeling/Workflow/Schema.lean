import Workflow.Error.Basic
import Workflow.Number.Numeral
import Workflow.Text.Encoding

/-!
# Reading records

A record is read from a mapping field by field. Each field has a reader that accepts several forms of
its value; all fields are read, and what is wrong with them is told together, in the order of the
fields, each fault with the way to it.
-/

namespace Workflow

open Number Time

/-- A value that was read, or everything that is wrong with what it was read from. -/
inductive Checked (α : Type) where
  | valid (value : α)
  | invalid (problems : List Problem)

namespace Checked

instance : Applicative Checked where
  pure := .valid
  seq read rest := match read, rest () with
    | .valid function, .valid value => .valid (function value)
    | .valid _, .invalid problems => .invalid problems
    | .invalid problems, .valid _ => .invalid problems
    | .invalid first, .invalid more => .invalid (first ++ more)

/-- A single fault at the place itself. -/
def fault {α : Type} (fault : FieldFault) : Checked α :=
  .invalid [⟨[], fault⟩]

/-- What was read below a step of the way. -/
def under {α : Type} (step : FieldStep) : Checked α → Checked α
  | .valid value => .valid value
  | .invalid problems =>
    .invalid (problems.map fun problem => { problem with location := step :: problem.location })

/-- A value that was read and has to meet a condition. -/
def ensure {α : Type} (accepts : α → Bool) (otherwise : FieldFault) : Checked α → Checked α
  | .valid value => if accepts value then .valid value else .fault otherwise
  | .invalid problems => .invalid problems

/-- A value that was read, or the failure of the whole. -/
def toExcept {α : Type} : Checked α → Except Failure α
  | .valid value => .ok value
  | .invalid problems => .error (.invalid problems)

end Checked

/-- A reader of values of one kind. -/
abbrev Reader (α : Type) := Value → Checked α

namespace Reader

/-- Reads any value. -/
def any : Reader Value := .valid

/-- Reads a text, which may be given as its bytes. -/
def text : Reader String
  | .text value => .valid value
  | .bytes content =>
    match Text.decodeUtf8? false content with
    | some value => .valid value
    | none => .fault .textBytes
  | _ => .fault .notText

/-- Reads a text as a value. -/
def textValue : Reader Value := fun value => Value.text <$> text value

/-- Reads a text as a value, or null. -/
def optionalText : Reader Value
  | .null => .valid .null
  | value => textValue value

/-- Reads what a text or its bytes stand for. -/
def written {α : Type} (read : String → Checked α) (unreadable : FieldFault) (value : Value)
    (other : Checked α) : Checked α :=
  match value with
  | .text value => read value
  | .bytes content =>
    match Text.decodeUtf8? false content with
    | some value => read value
    | none => .fault unreadable
  | _ => other

/-- Reads null as nothing. -/
def optional {α : Type} (reader : Reader α) : Reader (Option α)
  | .null => .valid none
  | value => some <$> reader value

/-- A whole number in its shortest form: no sign but a minus, and no nought in front of other digits. A
number with more digits than are read has none. -/
def shortestInteger? (cs : List Char) : Except FieldFault Int :=
  let (negative, body) := match cs with
    | '-' :: rest => (true, rest)
    | rest => (false, rest)
  let digits := body.takeWhile Char.isDigit
  let rest := body.drop digits.length
  let value := signed negative (digitsValue (digits.map fun c => c.toNat - 48))
  if digits.head? ≠ some '0' ∧ digitLimit < digits.length + (if negative then 1 else 0) then
    .error .integerSize
  else if !rest.isEmpty ∨ digits.isEmpty ∨ digits.head? = some '0' ∧ digits.length ≠ 1 then
    .error .integerText
  else .ok value

/-- A number without the noughts in front of its first other digit; underscores may stand between them.
One nought is kept before a point, and of noughts alone the last sign. -/
def withoutLeadingNoughts? : List Char → Option (List Char)
  | '0' :: rest =>
    let noughts := rest.takeWhile fun c => c = '0' || c = '_'
    match rest.drop noughts.length with
    | [] => ('0' :: noughts).getLast?.map ([·])
    | c :: more =>
      if c.isDigit ∨ c = '-' then some (c :: more)
      else if c = '.' then ('0' :: noughts).getLast?.map (· :: c :: more)
      else none
  | c :: rest => if c.isDigit ∨ c = '-' then some (c :: rest) else none
  | [] => none

/-- A number without a point that only noughts follow. -/
def withoutPoint (cs : List Char) : List Char :=
  let fraction := cs.dropWhile (· ≠ '.')
  if (fraction.drop 1).all (· = '0') then cs.takeWhile (· ≠ '.') else cs

/-- A text without its underscores, if it has any and each of them parts two other signs. -/
def ungrouped? (cs : List Char) : Option (List Char) :=
  let parts := cs.splitOn '_'
  if parts.length ≤ 1 ∨ parts.any List.isEmpty then none else some parts.flatten

/-- White space of the Unicode standard, without the four separators. -/
def isStandardBlank (c : Char) : Bool :=
  Text.isBlank c && !(0x1C ≤ c.toNat && c.toNat ≤ 0x1F)

/-- A text without standard white space at either end. -/
def standardTrim (cs : List Char) : List Char :=
  ((cs.dropWhile isStandardBlank).reverse.dropWhile isStandardBlank).reverse

/-- The whole number that a text stands for: its shortest form, or one with blanks around it, a plus sign,
noughts in front, underscores between digits, or a point that only noughts follow. -/
def integerOfText (value : String) : Checked Int :=
  let cs := value.toList
  match shortestInteger? cs with
  | .ok whole => .valid whole
  | .error .integerText =>
    let shorter := do
      let trimmed := standardTrim cs
      let unsigned ← match trimmed with
        | '+' :: '-' :: _ => none
        | '+' :: rest => some rest
        | rest => some rest
      let plain := withoutPoint (← withoutLeadingNoughts? unsigned)
      (shortestInteger? ((ungrouped? plain).getD plain)).toOption
    match shorter with
    | some whole => .valid whole
    | none => .fault .integerText
  | .error fault => .fault fault

/-- Numbers of this size and beyond are too large where a number of 64 bits is called for. -/
def integerBound : Int := 0x8000000000000000

/-- The whole number that a floating-point number equals. -/
def integerOfFloat (value : Binary64) : Checked Int :=
  match value.toInt? with
  | some whole =>
    if -integerBound < whole ∧ whole < integerBound then .valid whole else .fault .integerSize
  | none => .fault (if value.isFinite then .integerFraction else .notFinite)

/-- Reads a whole number: also a truth value, a number without a fraction, or a text. -/
def integer : Reader Int
  | .int value => .valid value
  | .bool value => .valid (if value then 1 else 0)
  | .float value => integerOfFloat value
  | value => written integerOfText .integerText value (.fault .notInteger)

/-- The floating-point number that a text stands for: plain digits with blanks around them, or without
blanks and with underscores that each part two other signs. -/
def floatOfText (value : String) : Checked Binary64 :=
  let cs := value.toList
  match (readPlainFloat? (standardTrim cs)).or ((ungrouped? cs).bind readPlainFloat?) with
  | some number => .valid number
  | none => .fault .floatText

/-- Reads a floating-point number: also a truth value, a whole number or a text. -/
def float : Reader Binary64
  | .float value => .valid value
  | .int value =>
    match Binary64.ofInt? value with
    | some number => .valid number
    | none => .fault .notFloat
  | .bool value => .valid (if value then .ofRatio false 1 1 else .zero)
  | value => written floatOfText .floatText value (.fault .notFloat)

/-- The words that stand for truth values, in lower case. -/
def truthWords : List (String × Bool) :=
  [("0", false), ("off", false), ("f", false), ("false", false), ("n", false), ("no", false),
    ("1", true), ("on", true), ("t", true), ("true", true), ("y", true), ("yes", true)]

/-- A truth value from a number. -/
def boolOfInt (value : Int) : Checked Bool :=
  if value = 0 then .valid false
  else if value = 1 then .valid true
  else if -integerBound ≤ value ∧ value < integerBound then .fault .boolText
  else .fault .notBool

/-- A truth value from a word. -/
def boolOfText (value : String) : Checked Bool :=
  match truthWords.lookup (String.ofList (value.toList.map Char.toLower)) with
  | some truth => .valid truth
  | none => .fault .boolText

/-- Reads a truth value: also nought or one, or one of the words for them. -/
def bool : Reader Bool
  | .bool value => .valid value
  | .int value => boolOfInt value
  | .float value =>
    match integerOfFloat value with
    | .valid whole => boolOfInt whole
    | .invalid _ => .fault .notBool
  | value => written boolOfText .boolText value (.fault .notBool)

/-- A timestamp that was read, or its fault. -/
def timestampOr (fault : FieldFault) (time? : Option Timestamp) : Checked Timestamp :=
  match time? with
  | some time => .valid time
  | none => .fault fault

/-- Reads a timestamp: a text in the standard form, or a count of seconds since the start of 1970. -/
def timestamp : Reader Timestamp
  | .timestamp value => .valid value
  | .date value => .valid (.ofDate value)
  | .int value =>
    match Binary64.ofInt? value with
    | some _ => timestampOr .timestampCount (Timestamp.ofEpoch? value)
    | none => .fault .notTimestamp
  | .float value => timestampOr .timestampCount (Timestamp.ofFloatEpoch? value)
  | value =>
    written (fun text => timestampOr .timestampText (Timestamp.read? text)) .timestampText value
      (.fault .notTimestamp)

/-- Reads the name of a state. -/
def state : Reader State
  | .text value =>
    match State.ofName? value with
    | some state => .valid state
    | none => .fault .notMember
  | _ => .fault .notMember

/-- The part of the way that a key of a mapping makes. -/
def keyStep : Scalar → FieldStep
  | .text name => .name name
  | .int value =>
    if -integerBound ≤ value ∧ value < integerBound then .index value
    else .name (if (Scalar.int value).isShown then toString value else "<unprintable int object>")
  | .bool value => .index (if value then 1 else 0)
  | other => .name other.display

/-- Reads a key that has to be a text. -/
def textKey (key : Scalar) : Checked String :=
  .under (keyStep key) (.under (.name "[key]") (text (.scalar key)))

/-- Reads a mapping from texts to values of one kind. -/
def fields {α : Type} (reader : Reader α) : Reader (List (String × α))
  | .dict entries =>
    entries.foldr
      (fun (key, value) rest =>
        (fun name value rest => (name, value) :: rest) <$> textKey key <*>
          (reader value).under (keyStep key) <*> rest)
      (.valid [])
  | _ => .fault .notDict

/-- Reads a mapping whose keys are texts. -/
def dict : Reader Dict := fun value =>
  (fun fields => Dict.ofEntries (Dict.ofFields fields)) <$> fields any value

/-- Reads the items of a list, from the given index on. -/
def items {α : Type} (reader : Reader α) (index : Nat) : List Value → Checked (List α)
  | [] => .valid []
  | item :: rest =>
    List.cons <$> (reader item).under (.index index) <*> items reader (index + 1) rest

/-- Reads a list of values of one kind. -/
def list {α : Type} (reader : Reader α) : Reader (List α)
  | .list values => items reader 0 values
  | .group values => items reader 0 values
  | .set members => items reader 0 (members.map .scalar)
  | _ => .fault .notList

/-- Reads a record from a mapping. -/
def record {α : Type} (reader : Dict → Checked α) : Reader α
  | .dict entries => reader entries
  | _ => .fault .notRecord

/-- Reads a field that has to be there. -/
def required {α : Type} (entries : Dict) (name : String) (reader : Reader α) : Checked α :=
  match entries.field? name with
  | some value => (reader value).under (.name name)
  | none => .under (.name name) (.fault .missing)

/-- Reads a field that has a value of its own when it is missing. -/
def defaulted {α : Type} (entries : Dict) (name : String) (reader : Reader α) (default : α) :
    Checked α :=
  match entries.field? name with
  | some value => (reader value).under (.name name)
  | none => .valid default

end Reader

end Workflow
