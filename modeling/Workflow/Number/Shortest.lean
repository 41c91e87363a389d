import Workflow.Number.Binary64

/-!
# The shortest text of a number

A number is written with the fewest significant digits that read back as the same number, and with
the nearest such digits where there is a choice. The decision is made in whole numbers, on the range
of values that round to the number.
-/

namespace Workflow.Number

/-- A positive decimal number, `digits * 10 ^ exponent`. -/
structure Decimal where
  digits : Nat
  exponent : Int
  deriving DecidableEq

namespace Magnitude

/-- The values that round to a size, in quarter units: both ends, and whether the ends belong to the
range. Below a power of two the neighbours are twice as close. -/
def quarterRange (size : Magnitude) : Nat × Nat × Bool :=
  let centre := 4 * size.units
  let gap := Nat.pow 2 size.shift
  let below := if size.significand = Nat.pow 2 52 && 0 < size.shift then gap else 2 * gap
  (centre - below, centre + 2 * gap, size.significand % 2 == 0)

/-- The least `k` for which the size is below `10 ^ k`. -/
def decimalWidth (size : Magnitude) : Int :=
  let guess := ((Nat.log2 size.units : Int) - 1074) * 30103 / 100000
  let fits (k : Int) : Bool :=
    if 0 ≤ k then size.units < Nat.pow 10 k.toNat * unitsPerOne
    else size.units * Nat.pow 10 (-k).toNat < unitsPerOne
  if fits guess then guess else if fits (guess + 1) then guess + 1 else guess + 2

/-- The decimal with `count` digits that reads back as the size and is nearest to it, if there is
one. -/
def withDigits? (size : Magnitude) (width : Int) (count : Nat) : Option Decimal :=
  let step := width - count
  let scale := 4 * unitsPerOne
  -- `points * up` against `quarters * down` compares a point of the grid with a value
  let up := if 0 ≤ step then Nat.pow 10 step.toNat * scale else scale
  let down := if 0 ≤ step then 1 else Nat.pow 10 (-step).toNat
  let (low, high, closed) := size.quarterRange
  let centre := 4 * size.units * down
  let floor := centre / up
  let inside (point : Nat) : Bool :=
    let place := point * up
    if closed then low * down ≤ place && place ≤ high * down
    else low * down < place && place < high * down
  let below := centre - floor * up
  let above := (floor + 1) * up - centre
  let preferred :=
    if below < above then floor
    else if above < below then floor + 1
    else floor + floor % 2
  let other := if preferred = floor then floor + 1 else floor
  -- the upper neighbour may be the next power of ten, which has one digit
  let decimal (point : Nat) : Decimal := if point = Nat.pow 10 count then ⟨1, width⟩ else ⟨point, step⟩
  if inside preferred then some (decimal preferred)
  else if inside other then some (decimal other)
  else none

/-- The decimal with the fewest digits that reads back as the size; seventeen digits always do. -/
def shortest (size : Magnitude) : Decimal :=
  let width := size.decimalWidth
  ((List.range 17).findSome? fun count => size.withDigits? width (count + 1)).getD ⟨0, 0⟩

end Magnitude

/-- The digits of a whole number in base ten. -/
def digitText (value : Nat) : List Char :=
  (Nat.repr value).toList

/-- How a number is laid out: positionally for decimal exponents from `least` to `most`, and with an
exponent mark otherwise. -/
structure Layout where
  least : Int
  most : Int
  nan : String
  infinity : String

/-- Numbers from one ten-thousandth up to below ten to the sixteenth are written positionally. -/
def plainLayout : Layout := ⟨-4, 15, "nan", "inf"⟩

/-- The layout in a JSON text, which names what is not finite. -/
def jsonLayout : Layout := ⟨-4, 15, "NaN", "Infinity"⟩

/-- The text of a positive decimal: at least one digit on either side of the point, or a single digit
before the point and a signed exponent of at least two digits. -/
def Decimal.text (layout : Layout) (value : Decimal) : List Char :=
  let digits := digitText value.digits
  let exponent := value.exponent + digits.length - 1
  if layout.least ≤ exponent ∧ exponent ≤ layout.most then
    if 0 ≤ value.exponent then
      digits ++ List.replicate value.exponent.toNat '0' ++ ['.', '0']
    else if 0 ≤ exponent then
      digits.take (exponent.toNat + 1) ++ '.' :: digits.drop (exponent.toNat + 1)
    else
      '0' :: '.' :: (List.replicate ((-exponent).toNat - 1) '0' ++ digits)
  else
    let fraction := digits.drop 1
    let mark := digitText exponent.natAbs
    digits.take 1 ++ (if fraction.isEmpty then [] else '.' :: fraction) ++
      'e' :: (if exponent < 0 then '-' else '+') ::
        (if mark.length < 2 then '0' :: mark else mark)

/-- The text of a number: the shortest that reads back, always with a point or an exponent. -/
def Binary64.text (layout : Layout) : Binary64 → String
  | .nan _ => layout.nan
  | .infinite negative => if negative then "-" ++ layout.infinity else layout.infinity
  | .finite negative size =>
    let body := if size.significand = 0 then "0.0".toList else size.shortest.text layout
    String.ofList (if negative then '-' :: body else body)

end Workflow.Number
