import Workflow.Quantity

/-!
# Backoff

How long to wait before a step is tried again: a power of the base that grows with each attempt, and a
part of the jitter that is drawn anew each time.
-/

namespace Workflow

open Number

/-- The wait after an attempt, in seconds; `fraction` is drawn from nought up to one. -/
def backoff (attempt base jitter : Value) (fraction : Binary64) : Except Fault Binary64 := do
  let wait ← Quantity.combined "** or pow()" Quantity.pow base attempt
  let reach ← Quantity.combined "-" (fun jitter _ => .ok jitter) jitter (.int 0)
  let drawn := Binary64.zero.add ((← reach.toBinary64).mul fraction)
  .ok ((← wait.toBinary64).add drawn)

end Workflow
