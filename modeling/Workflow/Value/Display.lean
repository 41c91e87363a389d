import Workflow.Number.Numeral
import Workflow.Number.Shortest
import Workflow.Text.Quoted
import Workflow.Value.Basic

/-!
# Values in messages

Two texts of a value: `display`, which shows a value inside another or after a colon with texts in
quotes, and `plain`, which is the same but leaves a text, a date or a timestamp at the top as it is.
A whole number of very many digits has no text, and neither has a value that holds one.
-/

namespace Workflow

open Number Time

/-- Texts joined by a separator. -/
def joined (separator : String) : List String → String
  | [] => ""
  | [single] => single
  | first :: rest => first ++ separator ++ joined separator rest

/-- A length of time in seconds, as shown for the offset of a clock. -/
def offsetDisplay (offset : Int) : String :=
  let days := Int.fdiv offset 86400
  let seconds := offset - days * 86400
  let parts :=
    (if days = 0 then [] else [s!"days={days}"]) ++
      (if seconds = 0 then [] else [s!"seconds={seconds}"])
  if offset = 0 then "datetime.timezone.utc"
  else "datetime.timezone(datetime.timedelta(" ++ joined ", " parts ++ "))"

/-- The parts of a time of day that are shown: hour and minute always, seconds and microseconds when
they or a later one are not nought. -/
def clockParts (microseconds : Nat) : List String :=
  let seconds := microseconds / 1000000
  let fraction := microseconds % 1000000
  let base := [toString (seconds / 3600), toString (seconds / 60 % 60)]
  if fraction ≠ 0 then base ++ [toString (seconds % 60), toString fraction]
  else if seconds % 60 ≠ 0 then base ++ [toString (seconds % 60)]
  else base

namespace Scalar

/-- The parts of a date as numbers. -/
def dateParts (date : Date) : List String :=
  let (year, month, day) := date.civil
  [toString year, toString month, toString day]

/-- A scalar as it is shown inside other values. -/
def display : Scalar → String
  | .null => "None"
  | .bool true => "True"
  | .bool false => "False"
  | .int value => toString value
  | .float value => value.text plainLayout
  | .text value => Text.quoted value
  | .date value => "datetime.date(" ++ joined ", " (dateParts value) ++ ")"
  | .timestamp value =>
    let zone := value.offset.map fun offset => s!"tzinfo={offsetDisplay offset}"
    let parts := dateParts value.date ++ clockParts (value.wall % dayMicroseconds) ++ zone.toList
    "datetime.datetime(" ++ joined ", " parts ++ ")"
  | .bytes content => Text.quotedBytes content

/-- A scalar as it is shown on its own. -/
def plain : Scalar → String
  | .text value => value
  | .date value => String.ofList value.text
  | .timestamp value => value.spacedText
  | other => other.display

/-- Whether a scalar has a text. -/
def isShown : Scalar → Bool
  | .int value => (digitText value.natAbs).length ≤ digitLimit
  | _ => true

end Scalar

namespace Value

mutual

/-- A value as it is shown inside other values. -/
def display : Value → String
  | .scalar value => value.display
  | .list items => "[" ++ joined ", " (displayItems items) ++ "]"
  | .group [single] => "(" ++ display single ++ ",)"
  | .group items => "(" ++ joined ", " (displayItems items) ++ ")"
  | .set [] => "set()"
  | .set members => "\x7b" ++ joined ", " (members.map Scalar.display) ++ "\x7d"
  | .dict entries => "\x7b" ++ joined ", " (displayEntries entries) ++ "\x7d"
  | .loop _ isList => if isList then "[...]" else "\x7b...\x7d"

/-- The items of a list, each as it is shown. -/
def displayItems : List Value → List String
  | [] => []
  | item :: rest => display item :: displayItems rest

/-- The entries of a mapping, each key and value as it is shown. -/
def displayEntries : List (Scalar × Value) → List String
  | [] => []
  | (key, value) :: rest => (key.display ++ ": " ++ display value) :: displayEntries rest

end

/-- A value as it is shown on its own. -/
def plain : Value → String
  | .scalar value => value.plain
  | other => other.display

mutual

/-- Whether a value has a text. -/
def isShown : Value → Bool
  | .scalar value => value.isShown
  | .list items | .group items => areShown items
  | .set members => members.all Scalar.isShown
  | .dict entries => holdShown entries
  | .loop _ _ => true

/-- Whether all values of a list have a text. -/
def areShown : List Value → Bool
  | [] => true
  | item :: rest => isShown item && areShown rest

/-- Whether all keys and values of a mapping have a text. -/
def holdShown : List (Scalar × Value) → Bool
  | [] => true
  | (key, value) :: rest => key.isShown && isShown value && holdShown rest

end

end Value

/-- Several values shown in round brackets; a single one is followed by a comma. -/
def displayGroup (values : List Value) : String :=
  (Value.group values).display

end Workflow
