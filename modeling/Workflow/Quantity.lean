import Workflow.Error.Fault

/-!
# Quantities

The numbers among document values and their arithmetic. A truth value counts as nought or one. Whole
numbers stay whole; where one number is a floating-point number, so is the result.
-/

namespace Workflow

open Number

/-- A number among document values. -/
inductive Quantity where
  | whole (value : Int)
  | floating (value : Binary64)
  deriving DecidableEq

namespace Quantity

/-- The number that a value counts as. -/
def ofValue? : Value → Option Quantity
  | .bool value => some (.whole (if value then 1 else 0))
  | .int value => some (.whole value)
  | .float value => some (.floating value)
  | _ => none

/-- A number as a value. -/
def toValue : Quantity → Value
  | .whole value => .int value
  | .floating value => .float value

/-- A number as a floating-point number. -/
def toBinary64 : Quantity → Except Fault Binary64
  | .floating value => .ok value
  | .whole value =>
    match Binary64.ofInt? value with
    | some number => .ok number
    | none => .error .tooLargeForFloat

/-- Where a number lies; not-a-number lies nowhere. -/
def position? : Quantity → Option Position
  | .whole value => some (positionOfInt value)
  | .floating value => value.position?

/-- How a number compares with nought, if it does. -/
def sign? (number : Quantity) : Option Ordering :=
  number.position?.map (·.order (positionOfInt 0))

/-- The sum of two numbers. -/
def add (left right : Quantity) : Except Fault Quantity :=
  match left, right with
  | .whole left, .whole right => .ok (.whole (left + right))
  | left, right => do .ok (.floating ((← left.toBinary64).add (← right.toBinary64)))

/-- The product of two numbers. -/
def mul (left right : Quantity) : Except Fault Quantity :=
  match left, right with
  | .whole left, .whole right => .ok (.whole (left * right))
  | left, right => do .ok (.floating ((← left.toBinary64).mul (← right.toBinary64)))

/-- The power of floating-point numbers. Any number to the power of nought is one, and so is one to any
power; nought, infinite numbers and what is no number follow rules of their own, and finite numbers have
to have a finite power. -/
def floatingPower (base exponent : Binary64) : Except Fault Binary64 :=
  let isOdd := exponent.toInt?.any (· % 2 ≠ 0)
  let down := exponent.isNegative
  let one := Binary64.ofRatio false 1 1
  let size := if base.isNegative then base.negate else base
  let signed (result : Binary64) : Binary64 := if base.isNegative && isOdd then result.negate else result
  if exponent.isZero || base = one then .ok one
  else match base, exponent with
    | .nan mark, _ => .ok (.nan mark)
    | _, .nan mark => .ok (.nan mark)
    | _, .infinite _ =>
      if size = one then .ok one
      else
        let grows := size.position?.any fun place => place.order (positionOfInt 1) == .gt
        .ok (if down == grows then .zero else .infinite false)
    | .infinite _, _ => .ok (signed (if down then .zero else .infinite false))
    | .finite _ _, .finite _ _ =>
      if base.isZero then
        if down then .error .zeroToNegativePower else .ok (signed .zero)
      else
        let result := signed (size.pow exponent)
        if base.isNegative && exponent.toInt?.isNone then .ok .undefined
        else if result.isFinite then .ok result
        else .error .powerTooLarge

/-- The power of two numbers. That of whole numbers is whole unless the exponent is negative. -/
def pow (base exponent : Quantity) : Except Fault Quantity :=
  match base, exponent with
  | .whole base, .whole (.ofNat exponent) => .ok (.whole (Int.pow base exponent))
  | base, exponent => do .ok (.floating (← floatingPower (← base.toBinary64) (← exponent.toBinary64)))

/-- The fault of an operator that does not go with two values. -/
def unsupported (sign : String) (left right : Value) : Fault :=
  .stated "TypeError" <| s!"unsupported operand type(s) for {sign}: " ++
    s!"{Text.quoted left.kindName} and {Text.quoted right.kindName}"

/-- What an operator gives for two values, which have to be numbers. -/
def combined (sign : String) (operate : Quantity → Quantity → Except Fault Quantity)
    (left right : Value) : Except Fault Quantity :=
  match ofValue? left, ofValue? right with
  | some left, some right => operate left right
  | _, _ => .error (unsupported sign left right)

end Quantity

end Workflow
