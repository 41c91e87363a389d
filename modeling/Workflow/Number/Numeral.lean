import Workflow.Number.Binary64
import Workflow.Text.Digit

/-!
# Numerals

A numeral is an optional sign and decimal digits with at most one point. Digits of every script
count by their value. A numeral without a point stands for a whole number, one with a point for a
floating-point number. Whole numbers are read up to a limit of digits.
-/

namespace Workflow.Number

/-- The most digits of a whole number that is read. -/
def digitLimit : Nat := 4300

/-- A written number: the values of its digits before the point and, when there is a point, after
it. -/
structure Numeral where
  negative : Bool
  whole : List Nat
  fraction : Option (List Nat)
  deriving DecidableEq

/-- The number that a row of digit values stands for. -/
def digitsValue (digits : List Nat) : Nat :=
  digits.foldl (fun total digit => 10 * total + digit) 0

/-- The values of the digits at the front of a text, and the rest of the text. -/
def takeDigits (cs : List Char) : List Nat × List Char :=
  ((cs.takeWhile Text.isDecimalDigit).filterMap Text.digitValue?,
    cs.dropWhile Text.isDecimalDigit)

/-- A leading sign, and the text after it. -/
def takeSign : List Char → Bool × List Char
  | '-' :: rest => (true, rest)
  | '+' :: rest => (false, rest)
  | rest => (false, rest)

/-- The number nearest to `digits * 10 ^ exponent`. Exponents far outside the format are decided
without computing the power. -/
def ofDecimal (negative : Bool) (digits : List Nat) (exponent : Int) : Binary64 :=
  let digits := digits.dropWhile (· = 0)
  let width := digits.length + exponent
  if digits.isEmpty || width < -400 then .finite negative .zero
  else if 400 < width then .infinite negative
  else
    let value := digitsValue digits
    if 0 ≤ exponent then .ofRatio negative (value * Nat.pow 10 exponent.toNat) 1
    else .ofRatio negative value (Nat.pow 10 (-exponent).toNat)

namespace Numeral

/-- Reads a numeral that takes up a whole text. -/
def read? (cs : List Char) : Option Numeral :=
  let (negative, body) := takeSign cs
  match takeDigits body with
  | (whole, []) => if whole.isEmpty then none else some ⟨negative, whole, none⟩
  | (whole, '.' :: rest) =>
    match takeDigits rest with
    | (fraction, []) =>
      if whole.isEmpty && fraction.isEmpty then none else some ⟨negative, whole, some fraction⟩
    | _ => none
  | _ => none

/-- The number nearest to a numeral with the given fraction. -/
def toBinary64 (numeral : Numeral) : Binary64 :=
  let fraction := numeral.fraction.getD []
  ofDecimal numeral.negative (numeral.whole ++ fraction) (-fraction.length)

end Numeral

/-- A whole number with a sign. -/
def signed (negative : Bool) (size : Nat) : Int :=
  if negative then -(size : Int) else size

/-- Digits in groups, with single underscores between groups: the digit values, if the text has no
other form. -/
def groupedDigits? : List Char → Option (List Nat)
  | [] => none
  | c :: rest => do
    let digit ← Text.digitValue? c
    match rest with
    | [] => some [digit]
    | '_' :: rest' => (digit :: ·) <$> groupedDigits? rest'
    | rest => (digit :: ·) <$> groupedDigits? rest

/-- Why a text is not read as a whole number. -/
inductive IntegerError where
  /-- The text does not have the form of a whole number. -/
  | malformed (text : String)
  /-- The text has more digits than are read. -/
  | tooLong (digits : Nat)
  deriving DecidableEq

/-- Reads a whole number: blank space around it, a sign, and digits with underscores between them. A
run of digits over the limit is refused before the form of what follows is looked at. -/
def readInteger (text : String) : Except IntegerError Int :=
  let (negative, body) := takeSign (Text.trim text.toList)
  let run := body.takeWhile fun c => Text.isDecimalDigit c || c = '_'
  let count := (run.filter (· ≠ '_')).length
  if digitLimit < count then .error (.tooLong count)
  else match groupedDigits? body with
    | some digits => .ok (signed negative (digitsValue digits))
    | none => .error (.malformed text)

/-- Reads a whole number in base two, eight or sixteen: blank space around it, a sign, the mark of the
base, which may be left out, and digits with single underscores between them. -/
def readBased? (base : Nat) (mark : Char) (text : String) : Option Int := do
  let (negative, body) := takeSign (Text.trim text.toList)
  let digits := match body with
    | '0' :: c :: rest =>
      if c.toLower = mark then (if rest.head? = some '_' then rest.drop 1 else rest) else body
    | _ => body
  let values ← (digits.filter (· ≠ '_')).mapM (basedDigit? base)
  guard (!values.isEmpty ∧ digits.head? ≠ some '_' ∧ digits.getLast? ≠ some '_')
  guard ((digits.zip (digits.drop 1)).all fun pair => pair ≠ ('_', '_'))
  return signed negative (values.foldl (fun total digit => base * total + digit) 0)
where
  /-- The value of a digit of a base: a digit of any script, or a letter. -/
  basedDigit? (base : Nat) (c : Char) : Option Nat :=
    let value? := (Text.digitValue? c).or <|
      if 'a' ≤ c ∧ c ≤ 'z' then some (c.toNat - 87)
      else if 'A' ≤ c ∧ c ≤ 'Z' then some (c.toNat - 55)
      else none
    value?.filter (· < base)

/-- Reads a floating-point number in plain digits: a sign, digits with a point if need be and an exponent
if need be, or a word for what is infinite or no number. -/
def readPlainFloat? (cs : List Char) : Option Binary64 :=
  let (negative, body) := takeSign cs
  let word := String.ofList (body.map Char.toLower)
  if word = "nan" then some .undefined
  else if word = "inf" ∨ word = "infinity" then some (.infinite negative)
  else
    let isMark (c : Char) : Bool := c = 'e' || c = 'E'
    let mantissa := body.takeWhile (!isMark ·)
    let whole := mantissa.takeWhile (· ≠ '.')
    let fraction := (mantissa.dropWhile (· ≠ '.')).drop 1
    let (down, exponent, marked) := match body.dropWhile (!isMark ·) with
      | [] => (false, [], false)
      | _ :: rest => ((takeSign rest).1, (takeSign rest).2, true)
    let digits (cs : List Char) : List Nat := cs.map fun c => c.toNat - 48
    if (whole.isEmpty && fraction.isEmpty) || (marked && exponent.isEmpty) ||
        !(whole ++ fraction ++ exponent).all Char.isDigit then none
    else some <| ofDecimal negative (digits (whole ++ fraction))
      (signed down (digitsValue (digits exponent)) - fraction.length)

/-- The text without its underscores, each of which has to stand between two digits. -/
def withoutUnderscores? : (before : Char) → List Char → Option (List Char)
  | _, [] => some []
  | before, c :: rest =>
    if c = '_' then
      if before.isDigit && rest.head?.any Char.isDigit then withoutUnderscores? c rest else none
    else (c :: ·) <$> withoutUnderscores? c rest

/-- Reads a floating-point number: blank space around it, digits of any script, and single underscores
between digits. -/
def readFloat? (text : String) : Option Binary64 := do
  let plain := (Text.trim text.toList).map fun c =>
    match Text.digitValue? c with
    | some digit => Char.ofNat (48 + digit)
    | none => c
  readPlainFloat? (← withoutUnderscores? ' ' plain)

end Workflow.Number
