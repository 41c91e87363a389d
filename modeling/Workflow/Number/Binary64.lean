/-!
# Binary floating-point numbers

The numbers of the 64-bit binary format, held exactly: a finite number is a whole number of units,
where one unit is the smallest positive number of the format, `2 ^ (-1074)`. All arithmetic is done
on whole numbers and rounded once at the end, to the nearest number of the format and to the even
one of two that are equally near.
-/

namespace Workflow.Number

/-- How many units make one. -/
def unitsPerOne : Nat := Nat.pow 2 1074

/-- The quotient of two whole numbers, rounded to the nearest whole number; a half goes to the even
neighbour. -/
def roundQuotient (numerator denominator : Nat) : Nat :=
  let quotient := numerator / denominator
  let twice := 2 * (numerator % denominator)
  if twice < denominator then quotient
  else if denominator < twice then quotient + 1
  else quotient + quotient % 2

/-- The size of a finite number: `significand * 2 ^ shift` units. Each size is written in one way
only, with a full significand unless it is one of the smallest. -/
structure Magnitude where
  significand : Nat
  shift : Nat
  canonical : significand < Nat.pow 2 53 ∧ shift ≤ 2045 ∧ (shift = 0 ∨ Nat.pow 2 52 ≤ significand)
  deriving DecidableEq

namespace Magnitude

/-- The size nought. -/
def zero : Magnitude := ⟨0, 0, by decide⟩

/-- The size in units. -/
def units (size : Magnitude) : Nat :=
  size.significand * Nat.pow 2 size.shift

/-- The size with the given parts, if they are in canonical form. -/
def ofParts? (significand shift : Nat) : Option Magnitude :=
  if canonical : significand < Nat.pow 2 53 ∧ shift ≤ 2045 ∧ (shift = 0 ∨ Nat.pow 2 52 ≤ significand) then
    some ⟨significand, shift, canonical⟩
  else none

/-- The size nearest to `numerator / denominator` units; there is none when that lies beyond the
largest size. -/
def nearest? (numerator denominator : Nat) : Option Magnitude :=
  let shift := Nat.log2 (numerator / denominator) - 52
  let significand := roundQuotient numerator (denominator * Nat.pow 2 shift)
  if significand = Nat.pow 2 53 then ofParts? (Nat.pow 2 52) (shift + 1) else ofParts? significand shift

end Magnitude

/-- A number of the 64-bit binary format. Not-a-number equals nothing, not even itself; its mark tells
whether two of them come from one place. -/
inductive Binary64 where
  | nan (mark : Nat)
  | infinite (negative : Bool)
  | finite (negative : Bool) (size : Magnitude)
  deriving DecidableEq

/-- Where a number lies on the line: at so many units, or beyond every finite number. -/
inductive Position where
  | below
  | at (units : Int)
  | above
  deriving DecidableEq

namespace Position

/-- The order of positions along the line. -/
def order : Position → Position → Ordering
  | .below, .below => .eq
  | .below, _ => .lt
  | .at _, .below => .gt
  | .at left, .at right => Ord.compare left right
  | .at _, .above => .lt
  | .above, .above => .eq
  | .above, _ => .gt

end Position

/-- The position of a whole number. -/
def positionOfInt (value : Int) : Position :=
  .at (value * unitsPerOne)

namespace Binary64

/-- The not-a-number that arithmetic gives. -/
def undefined : Binary64 := .nan 0

/-- The not-a-number of JSON texts. -/
def ofJson : Binary64 := .nan 1

/-- Positive nought. -/
def zero : Binary64 := .finite false .zero

/-- The number with the given sign that is nearest to `numerator / denominator` units. -/
def ofUnits (negative : Bool) (numerator denominator : Nat) : Binary64 :=
  match Magnitude.nearest? numerator denominator with
  | some size => .finite negative size
  | none => .infinite negative

/-- The number nearest to a quotient of whole numbers. -/
def ofRatio (negative : Bool) (numerator denominator : Nat) : Binary64 :=
  ofUnits negative (numerator * unitsPerOne) denominator

/-- The number nearest to a whole number; there is none when it lies beyond the largest finite
number. -/
def ofInt? (value : Int) : Option Binary64 :=
  (Magnitude.nearest? (value.natAbs * unitsPerOne) 1).map (.finite (value < 0))

/-- Whether a number is smaller than nought or the negative nought. -/
def isNegative : Binary64 → Bool
  | .nan _ => false
  | .infinite negative => negative
  | .finite negative _ => negative

/-- Where a number lies; not-a-number lies nowhere. -/
def position? : Binary64 → Option Position
  | .nan _ => none
  | .infinite negative => some (if negative then .below else .above)
  | .finite negative size => some (.at (if negative then -size.units else size.units))

/-- Whether a number is nought, of either sign. -/
def isZero : Binary64 → Bool
  | .finite _ size => size.significand == 0
  | _ => false

/-- The number with the other sign. -/
def negate : Binary64 → Binary64
  | .nan mark => .nan mark
  | .infinite negative => .infinite !negative
  | .finite negative size => .finite (!negative) size

/-- The sum, rounded once. A sum of nought is positive unless both numbers are negative. -/
def add : Binary64 → Binary64 → Binary64
  | .nan _, _ => undefined
  | _, .nan _ => undefined
  | .infinite left, .infinite right => if left == right then .infinite left else undefined
  | .infinite negative, _ => .infinite negative
  | _, .infinite negative => .infinite negative
  | .finite left leftSize, .finite right rightSize =>
    let total : Int :=
      (if left then -(leftSize.units : Int) else leftSize.units) +
        (if right then -(rightSize.units : Int) else rightSize.units)
    if total = 0 then .finite (left && right) .zero
    else ofUnits (total < 0) total.natAbs 1

/-- The difference, rounded once. -/
def sub (left right : Binary64) : Binary64 :=
  left.add right.negate

/-- The product, rounded once. -/
def mul : Binary64 → Binary64 → Binary64
  | .nan _, _ => undefined
  | _, .nan _ => undefined
  | .infinite left, right => if right.isZero then undefined else .infinite (left != right.isNegative)
  | left, .infinite right => if left.isZero then undefined else .infinite (left.isNegative != right)
  | .finite left leftSize, .finite right rightSize =>
    ofUnits (left != right) (leftSize.units * rightSize.units) unitsPerOne

/-- The quotient, rounded once; there is none when the divisor is nought. -/
def div? : Binary64 → Binary64 → Option Binary64
  | left, right =>
    if right.isZero then none
    else some <| match left, right with
      | .nan _, _ => undefined
      | _, .nan _ => undefined
      | .infinite _, .infinite _ => undefined
      | .infinite negative, _ => .infinite (negative != right.isNegative)
      | _, .infinite negative => .finite (left.isNegative != negative) .zero
      | .finite negative size, .finite negative' size' =>
        ofUnits (negative != negative') (size.units * unitsPerOne) size'.units

/-- The 64-bit word of a number: sign, exponent and fraction from the highest bit down. -/
def toWord : Binary64 → UInt64
  | .nan _ => 0x7ff8000000000000
  | .infinite negative => (if negative then 0x8000000000000000 else 0) + 0x7ff0000000000000
  | .finite negative size =>
    let body :=
      if size.significand < Nat.pow 2 52 then size.significand
      else (size.shift + 1) * Nat.pow 2 52 + (size.significand - Nat.pow 2 52)
    (if negative then 0x8000000000000000 else 0) + UInt64.ofNat body

/-- The number of a 64-bit word. -/
def ofWord (word : UInt64) : Binary64 :=
  let negative := 0x8000000000000000 ≤ word
  let exponent := word.toNat / Nat.pow 2 52 % Nat.pow 2 11
  let fraction := word.toNat % Nat.pow 2 52
  if exponent = 2047 then (if fraction = 0 then .infinite negative else undefined)
  else
    let size? :=
      if exponent = 0 then Magnitude.ofParts? fraction 0
      else Magnitude.ofParts? (fraction + Nat.pow 2 52) (exponent - 1)
    match size? with
    | some size => .finite negative size
    | none => undefined

/-- The power of two numbers, as the machine computes it. -/
def pow (base exponent : Binary64) : Binary64 :=
  ofWord (Float.pow (Float.ofBits base.toWord) (Float.ofBits exponent.toWord)).toBits

/-- Whether a number is neither infinite nor not-a-number. -/
def isFinite : Binary64 → Bool
  | .finite _ _ => true
  | _ => false

/-- The size of a finite number. -/
def magnitude? : Binary64 → Option Magnitude
  | .finite _ size => some size
  | _ => none

/-- The largest whole number that is not above a finite number. -/
def floor? : Binary64 → Option Int
  | .finite negative size =>
    let units : Int := if negative then -(size.units : Int) else size.units
    some (Int.fdiv units unitsPerOne)
  | _ => none

/-- The whole number that a finite number equals, if it has no fraction. -/
def toInt? : Binary64 → Option Int
  | .finite negative size =>
    if size.units % unitsPerOne = 0 then
      let whole : Int := (size.units / unitsPerOne : Nat)
      some (if negative then -whole else whole)
    else none
  | _ => none

/-- The number rounded to so many decimal places; a half goes to the even digit. -/
def roundPlaces (places : Nat) : Binary64 → Binary64
  | .finite negative size =>
    ofRatio negative (roundQuotient (size.units * Nat.pow 10 places) unitsPerOne) (Nat.pow 10 places)
  | other => other

end Binary64

end Workflow.Number
