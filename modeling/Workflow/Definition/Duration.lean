import Workflow.Quantity

/-!
# Durations of delays

The seconds of a delay that is given in seconds, minutes and hours. Whole numbers stay whole.
-/

namespace Workflow.Duration

/-- A value so many times: texts and lists keep their kind. -/
def scaled (value : Value) (factor : Int) : Except Fault Value :=
  match Quantity.ofValue? value, value with
  | some number, _ => Quantity.toValue <$> number.mul (.whole factor)
  | none, .text _ => .ok value
  | none, .list _ => .ok value
  | none, _ => .error (Quantity.unsupported "*" value (.int factor))

/-- A text or a list, to which only a value of its own kind is joined. -/
def joinedOr (left right : Value) : Except Fault Value :=
  if left.kindName = right.kindName then .ok left
  else
    .error (.stated "TypeError" <| s!"can only concatenate {left.kindName} (not " ++
      s!"\"{right.kindName}\") to {left.kindName}")

/-- The sum of two values, for which numbers are meant. -/
def sum (left right : Value) : Except Fault Value :=
  match left with
  | .text _ => joinedOr left right
  | .list _ => joinedOr left right
  | _ => Quantity.toValue <$> Quantity.combined "+" Quantity.add left right

/-- All seconds of a delay. -/
def total (seconds minutes hours : Value) : Except Fault Value := do
  let shorter ← sum seconds (← scaled minutes 60)
  sum shorter (← scaled hours 3600)

/-- Whether a number is nought or less; not-a-number is not. -/
def isSpent (total : Value) : Except Fault Bool :=
  match Quantity.ofValue? total with
  | some number => .ok (number.sign?.any (· != .gt))
  | none =>
    .error (.stated "TypeError" <| "'<=' not supported between instances of " ++
      s!"{Text.quoted total.kindName} and 'int'")

end Workflow.Duration
