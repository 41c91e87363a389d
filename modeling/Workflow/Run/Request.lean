import Workflow.Action.Context
import Workflow.Action.Result
import Workflow.Event
import Workflow.Http.Basic
import Workflow.Instance.Filter

/-!
# Requests

Everything that an execution asks of its surroundings: the store, the actions, the clock that it sleeps
by, the event sink and the log. A request is one atomic step; what happens between two requests of one
execution is up to the others.
-/

namespace Workflow

open Number

/-- Why an action is performed. -/
inductive Purpose where
  /-- It is the action of a step, in the given attempt, counted from 1. -/
  | attempt (number : Nat)
  /-- It undoes a step. -/
  | compensation
  deriving DecidableEq

/-- One use of a registered action. -/
structure Invocation where
  purpose : Purpose
  action : String
  context : Context
  deriving DecidableEq

/-- A request of an execution. -/
inductive Request where
  /-- Whether the store has an instance with the id. -/
  | contains (id : String)
  /-- The instance with the id. -/
  | load (id : String)
  /-- Keep an instance under its id. -/
  | save (inst : Instance)
  /-- Drop the instance with the id. -/
  | remove (id : String)
  /-- The instances that a filter shows. -/
  | list (filter : Filter)
  /-- Make the action that is to be performed. -/
  | make (invocation : Invocation)
  /-- Whether the action may be performed. -/
  | permits (invocation : Invocation)
  /-- Perform the action. -/
  | perform (invocation : Invocation)
  /-- Wait for so many seconds. -/
  | sleep (seconds : Binary64)
  /-- Draw a number from nought up to one. -/
  | draw
  /-- An id that no instance has. -/
  | freshId
  /-- Deliver an event. -/
  | emit (event : Event)
  /-- Keep a log record. -/
  | log (record : LogRecord)
  /-- Ask a server. -/
  | http (request : Http.Request)

/-- What is answered to each request. -/
@[reducible] def Request.Answer : Request → Type
  | .contains _ => Except Failure Bool
  | .load _ => Except Failure Instance
  | .save _ => Except Failure Unit
  | .remove _ => Except Failure Bool
  | .list _ => Except Failure (List Instance)
  | .make _ => Except Failure Unit
  | .permits _ => Except Failure Bool
  | .perform _ => Except Failure Reply
  | .sleep _ => Except Failure Unit
  | .draw => Binary64
  | .freshId => String
  -- whether the event was delivered
  | .emit _ => Bool
  | .log _ => Unit
  | .http _ => Http.Outcome

end Workflow
