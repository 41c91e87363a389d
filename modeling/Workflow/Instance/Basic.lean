import Workflow.Definition.Basic
import Workflow.Error.Transition

/-!
# Workflow instances

An instance is one execution of a definition: its state, its data, and what has become of its steps.
Moves follow the table of states, and once an instance has ended its data and its steps no longer
change. Every change is stamped with the time it is given. Steps are named by their ids; an instance
notes down any other name it is given too, and only its summary and its record are held to texts.
-/

namespace Workflow

open Time Number

/-- A step that used up its attempts. -/
structure StepFailure where
  step : String
  error : String
  failedAt : Timestamp
  deriving DecidableEq

/-- One execution of a workflow definition. -/
structure Instance where
  id : String
  definition : Definition
  state : State
  data : Dict
  /-- The step that the instance stands at, or null. -/
  currentStep : Value
  completed : List Value
  failures : List StepFailure
  skipped : List Value
  /-- Why the instance failed or was cancelled, or null. -/
  errorMessage : Value
  createdAt : Timestamp
  updatedAt : Timestamp
  deriving DecidableEq

namespace Instance

/-- A fresh instance of a definition. -/
def fresh (id : String) (definition : Definition) (data : Dict) (now : Timestamp) : Instance :=
  ⟨id, definition, .pending, data, .null, [], [], [], .null, now, now⟩

/-- The instance with the time of its last change. -/
def touch (inst : Instance) (now : Timestamp) : Instance :=
  { inst with updatedAt := now }

/-- Moves an instance to another state. -/
def transitionTo (inst : Instance) (target : State) (now : Timestamp) :
    Except TransitionError Instance := do
  let state ← ensureTransition inst.state target (some inst.id)
  .ok ({ inst with state }.touch now)

/-- Moves an instance to the failed state, with the reason. -/
def fail (inst : Instance) (message : Value) (now : Timestamp) :
    Except TransitionError Instance := do
  let failed ← inst.transitionTo .failed now
  .ok { failed with errorMessage := message }

/-- Applies a change to an instance that has not ended. -/
def change (inst : Instance) (now : Timestamp) (update : Instance → Instance) :
    Except TransitionError Instance :=
  if inst.state.isTerminal then .error ⟨.ended, inst.state, inst.state, some inst.id⟩
  else .ok ((update inst).touch now)

/-- Puts entries into the data of an instance. -/
def mergeData (inst : Instance) (data : Dict) (now : Timestamp) :
    Except TransitionError Instance :=
  inst.change now fun inst => { inst with data := inst.data.overlay data }

/-- Sets the step that an instance stands at. -/
def setCurrentStep (inst : Instance) (step : Value) (now : Timestamp) :
    Except TransitionError Instance :=
  inst.change now fun inst => { inst with currentStep := step }

/-- Adds a step to those that were completed. -/
def markCompleted (inst : Instance) (step : Value) (now : Timestamp) :
    Except TransitionError Instance :=
  inst.change now fun inst => { inst with completed := inst.completed ++ [step] }

/-- Adds a step to those that failed. -/
def markFailed (inst : Instance) (step error : String) (now : Timestamp) :
    Except TransitionError Instance :=
  inst.change now fun inst => { inst with failures := inst.failures ++ [⟨step, error, now⟩] }

/-- Adds a step to those that were skipped. -/
def markSkipped (inst : Instance) (step : Value) (now : Timestamp) :
    Except TransitionError Instance :=
  inst.change now fun inst => { inst with skipped := inst.skipped ++ [step] }

/-- Whether a step was completed. -/
def isCompleted (inst : Instance) (step : Value) : Bool :=
  inst.completed.any (·.same step)

/-- The part of the declared steps that was completed at least once, in per cent with two decimal
places. -/
def progress (inst : Instance) : Binary64 :=
  let keys := inst.definition.stepIds
  let done := (keys.filter fun key => inst.isCompleted (.text key)).length
  if keys.isEmpty then .zero
  else ((Binary64.ofRatio false done keys.length).mul (.ofRatio false 100 1)).roundPlaces 2

/-- Whether two instances are equal, with times compared as instants. -/
def equals (left right : Instance) : Bool :=
  let sameFailure (one other : StepFailure) : Bool :=
    one.step == other.step && one.error == other.error && one.failedAt.same other.failedAt
  left.createdAt.same right.createdAt && left.updatedAt.same right.updatedAt &&
    left.failures.length == right.failures.length &&
    (left.failures.zip right.failures).all (fun (one, other) => sameFailure one other) &&
    { left with failures := right.failures, createdAt := right.createdAt,
                updatedAt := right.updatedAt } == right

end Instance

end Workflow
