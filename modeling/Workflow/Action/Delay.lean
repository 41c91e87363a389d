import Workflow.Action.Context
import Workflow.Action.Result
import Workflow.Quantity

/-!
# Delays

How long the action that waits is to wait, read from its parameters in seconds and microseconds.
-/

namespace Workflow

open Number Time

namespace Delay

/-- How long to wait: two numbers that are not negative. -/
structure Duration where
  seconds : Quantity
  microseconds : Quantity
  deriving DecidableEq

/-- A number that is not negative; truth values are no numbers here. -/
def length? : Value → Option Quantity
  | .bool _ => none
  | value => (Quantity.ofValue? value).filter fun number => number.sign?.any (· != .lt)

/-- Reads a duration from the parameters of the action, or tells which part is not valid. -/
def read (config : Dict) : Except String Duration :=
  match length? ((Dict.field? config "seconds").getD (.int 1)) with
  | none => .error "Invalid delay seconds specified"
  | some seconds =>
    match length? ((Dict.field? config "microseconds").getD (.int 0)) with
    | none => .error "Invalid delay microseconds specified"
    | some microseconds => .ok ⟨seconds, microseconds⟩

/-- How many microseconds make a second. -/
def microsecondsPerSecond : Nat := 1000000

/-- A number of microseconds in seconds. -/
def inSeconds : Quantity → Except Fault Binary64
  | .whole count =>
    let quotient := Binary64.ofRatio (count < 0) count.natAbs microsecondsPerSecond
    if quotient.isFinite then .ok quotient
    else .error (.stated "OverflowError" "integer division result too large for a float")
  | .floating count =>
    .ok ((count.div? (.ofRatio false microsecondsPerSecond 1)).getD .undefined)

/-- The whole duration in seconds. -/
def Duration.total (duration : Duration) : Except Fault Binary64 := do
  let fraction ← inSeconds duration.microseconds
  let whole ← duration.seconds.toBinary64
  .ok (whole.add fraction)

/-- Whether there is anything to wait for. -/
def isLonger (seconds : Binary64) : Bool :=
  seconds.position?.any fun place => place.order (positionOfInt 0) == .gt

/-- The result of having waited. -/
def Duration.result (duration : Duration) (now : Timestamp) : ActionResult :=
  .succeed <| Dict.ofFields
    [("delayed_seconds", duration.seconds.toValue),
      ("delayed_microseconds", duration.microseconds.toValue), ("delayed_at", .text now.text)]

end Delay

end Workflow
