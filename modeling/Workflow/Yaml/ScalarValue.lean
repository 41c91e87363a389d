import Workflow.Error.Fault
import Workflow.Text.Base64
import Workflow.Text.Case
import Workflow.Yaml.Cursor
import Workflow.Yaml.Kind

/-!
# Values of YAML scalars

What a scalar stands for once its kind is known. A tag may give a scalar a kind that its text does not
have the form of; then the text has to be read all the same, and is refused if it cannot be.
-/

namespace Workflow.Yaml

open Number Time

/-- Refuses a document. -/
def refuse {α : Type} : Except YamlError α := .error .malformed

/-- Refuses a scalar that has no value of its kind. -/
def refuseValue {α : Type} (text : String) : Except YamlError α :=
  .error (.kind "ValueError" text)

/-- Refuses a scalar that ends too early. -/
def refuseShort {α : Type} : Except YamlError α :=
  .error (.kind "IndexError" "string index out of range")

/-- A whole number written in the usual digits. -/
def decimalValue (cs : List Char) : Except YamlError Int :=
  match readInteger (String.ofList cs) with
  | .ok value => .ok value
  | .error error => refuseValue (Fault.integerText error)

/-- A whole number written in digits of another base. -/
def basedValue (base : Nat) (mark : Char) (cs : List Char) : Except YamlError Int :=
  let text := String.ofList cs
  match readBased? base mark text with
  | some value => .ok value
  | none => refuseValue (Fault.literalText base text)

/-- A whole number without its sign. -/
def unsignedValue (cs : List Char) : Except YamlError Int :=
  match cs with
  | [] => refuseShort
  | ['0'] => .ok 0
  | '0' :: 'b' :: rest => basedValue 2 'b' rest
  | '0' :: 'x' :: rest => basedValue 16 'x' rest
  | '0' :: rest => basedValue 8 'o' ('0' :: rest)
  | cs => do
    if cs.contains ':' then
      let parts ← (cs.splitOn ':').mapM decimalValue
      .ok (parts.foldl (fun total part => 60 * total + part) 0)
    else decimalValue cs

/-- The value of a whole number. -/
def intValue (text : String) : Except YamlError Int := do
  let cs := text.toList.filter (· ≠ '_')
  let size ← unsignedValue (unsigned cs)
  .ok (if cs.head? = some '-' then -size else size)

/-- The value of a floating-point number without its sign. -/
def decimalFloat (cs : List Char) : Except YamlError Binary64 :=
  match readFloat? (String.ofList cs) with
  | some value => .ok value
  | none =>
    refuseValue ("could not convert string to float: " ++ Text.quoted (String.ofList cs))

/-- The sum of numbers each of which counts sixty times the one after it, the last of them first. -/
def sixtiethsSum (total : Binary64) (base : Nat) : List Binary64 → Binary64
  | [] => total
  | part :: rest => sixtiethsSum (total.add (part.mul (.ofRatio false base 1))) (60 * base) rest

/-- The not-a-number of YAML texts. -/
def notANumber : Binary64 := .nan 2

/-- The value of a floating-point number. Where it is no number without being written so, it gets a mark
of its own. -/
def floatValue (mark : Nat) (text : String) : Except YamlError Binary64 := do
  let cs := (Text.lower (String.ofList (text.toList.filter (· ≠ '_')))).toList
  let body := unsigned cs
  if cs.isEmpty then refuseShort
  else if body = ".nan".toList then .ok notANumber
  else
    let size ←
      if body = ".inf".toList then .ok (.infinite false)
      else if body.contains ':' then do
        let parts ← (body.splitOn ':').mapM decimalFloat
        .ok (sixtiethsSum .zero 1 parts.reverse)
      else decimalFloat body
    match size with
    | .nan _ => .ok (.nan mark)
    | size => .ok (if cs.head? = some '-' then size.negate else size)

/-- The number that digits write, and nought for none. -/
def digitsNumber (cs : List Char) : Nat :=
  digitsValue (cs.map fun c => c.toNat - 48)

/-- A span of seconds as it is shown: days and seconds, which count up from the earliest day. -/
def spanDisplay (seconds : Int) : String :=
  let days := Int.fdiv seconds 86400
  let rest := Int.fmod seconds 86400
  let parts := (if days = 0 then [] else [s!"days={days}"]) ++
    (if rest = 0 then [] else [s!"seconds={rest}"])
  "datetime.timedelta(" ++ joined ", " parts ++ ")"

/-- The date that is written, or what keeps it from being one. -/
def dateValue (parts : TimestampParts) : Except YamlError Date :=
  let year := digitsNumber parts.year
  let month := digitsNumber parts.month
  if year = 0 then refuseValue "year 0 is out of range"
  else if month = 0 ∨ 12 < month then refuseValue "month must be in 1..12"
  else match Date.ofCivil? year month (digitsNumber parts.day) with
    | some date => .ok date
    | none => refuseValue "day is out of range for month"

/-- The offset that is written, in seconds. -/
def offsetValue (parts : TimestampParts) : Except YamlError (Option Int) :=
  match parts.offset with
  | none => .ok none
  | some (none, _, _) => .ok (some 0)
  | some (some sign, hours, minutes) =>
    let size : Int := digitsNumber hours * 3600 + digitsNumber minutes * 60
    let offset := if sign = '-' then -size else size
    if size < 86400 then .ok (some offset)
    else refuseValue <| "offset must be a timedelta strictly between -timedelta(hours=24) and " ++
      "timedelta(hours=24), not " ++ spanDisplay offset ++ "."

/-- The value of a date or a timestamp. -/
def timestampValue (text : String) : Except YamlError Scalar := do
  match timestampParts? (withoutLastBreak text.toList) with
  | none => .error (.kind "AttributeError" "'NoneType' object has no attribute 'groupdict'")
  | some parts =>
    match parts.clock with
    | none => .date <$> dateValue parts
    | some (hours, minutes, seconds, fraction) => do
      let offset ← offsetValue parts
      let date ← dateValue parts
      let hour := digitsNumber hours
      let minute := digitsNumber minutes
      let second := digitsNumber seconds
      if 23 < hour then refuseValue "hour must be in 0..23"
      else if 59 < minute then refuseValue "minute must be in 0..59"
      else if 59 < second then refuseValue "second must be in 0..59"
      else
        let micro := digitsNumber ((fraction ++ List.replicate 6 '0').take 6)
        let wall := date.day * dayMicroseconds + ((hour * 60 + minute) * 60 + second) * 1000000 + micro
        match Timestamp.ofWall? wall offset with
        | some time => .ok (.timestamp time)
        | none => refuseValue "day is out of range for month"

/-- The bytes that letters stand for. -/
def bytesValue (text : String) : Except YamlError Scalar :=
  let cs := text.toList
  match if cs.all (·.toNat < 0x80) then Text.base64Decoded? cs else none with
  | some content => .ok (.bytes content)
  | none => refuse

/-- The value of a scalar of a kind; `mark` tells apart what is no number. -/
def scalarValue (mark : Nat) (kind : Kind) (text : String) : Except YamlError Scalar :=
  match kind with
  | .null => .ok .null
  | .bool =>
    match boolWords.lookup (Text.lower text) with
    | some value => .ok (.bool value)
    | none => .error (.kind "KeyError" (Text.lower text))
  | .int => .int <$> intValue text
  | .float => .float <$> floatValue mark text
  | .timestamp => timestampValue text
  | .bytes => bytesValue text
  | .text => .ok (.text text)
  | _ => refuse

end Workflow.Yaml
