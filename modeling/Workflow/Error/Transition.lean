import Workflow.Lifecycle
import Workflow.Value.Basic
import Workflow.Value.Display

/-!
# Illegal moves

Why an instance cannot move from its state to another, or why an operation on it is refused in its
state.
-/

namespace Workflow

/-- Why a move is refused. -/
inductive TransitionCause where
  /-- The table of moves has no such move. -/
  | illegal
  /-- The instance has ended and can no longer change. -/
  | ended
  /-- The instance has ended and cannot be resumed. -/
  | notResumable
  /-- An instance with the id to be started exists. -/
  | alreadyExists
  /-- Anything else, told in words; `ofOperation` tells whether an operation is refused rather than a
  move. -/
  | stated (message : String) (ofOperation : Bool)
  deriving DecidableEq

/-- A refused move. -/
structure TransitionError where
  cause : TransitionCause
  current : State
  attempted : State
  instanceId : Option String
  deriving DecidableEq

namespace TransitionError

/-- Whether an operation is refused rather than a move. -/
def ofOperation (error : TransitionError) : Bool :=
  match error.cause with
  | .illegal => false
  | .stated _ ofOperation => ofOperation
  | _ => true

/-- The message for a refused move. -/
def message (error : TransitionError) : String :=
  let id := error.instanceId.getD ""
  let state := error.current.name
  match error.cause with
  | .illegal =>
    let subject := if id = "" then "workflow" else s!"workflow '{id}'"
    s!"Illegal transition for {subject}: {state} -> {error.attempted.name}"
  | .ended => s!"Workflow '{id}' is {state} and can no longer change"
  | .notResumable => s!"Cannot resume workflow '{id}' because it is already {state}"
  | .alreadyExists =>
    s!"Cannot start workflow '{id}' because an instance with this id already exists ({state})"
  | .stated message _ => message

/-- The names of the states that the current one may move to. -/
def validTransitions (error : TransitionError) : List String :=
  error.current.successors.map (·.name)

/-- What is told about a refused move. -/
def context (error : TransitionError) : Dict :=
  Dict.ofFields [("instance_id", .ofText? error.instanceId),
    ("current_state", .text error.current.name),
    ("attempted_state", .text error.attempted.name),
    ("valid_transitions", .ofTexts error.validTransitions)]

/-- The message for a user. -/
def userMessage (error : TransitionError) : String :=
  s!"Cannot transition workflow from '{error.current.label}' state to '{error.attempted.label}' " ++
    "state. This transition is not allowed by the workflow lifecycle rules."

/-- What to do about a refused move. -/
def suggestions (error : TransitionError) : List String :=
  let state := error.current.name
  let moves :=
    if error.current.successors.isEmpty then s!"No transitions are available from '{state}'"
    else s!"Valid transitions from '{state}' are: " ++ joined ", " error.validTransitions
  let advice := match error.current with
    | .completed => ["Completed workflows cannot be modified; start a new instance instead"]
    | .failed => ["Fix the underlying issue and start a new instance"]
    | .cancelled => ["Cancelled workflows cannot be resumed"]
    | _ => []
  moves :: advice

end TransitionError

/-- The target state, if an instance may move to it. -/
def ensureTransition (current target : State) (instanceId : Option String) :
    Except TransitionError State :=
  if current.canMoveTo target then .ok target
  else .error ⟨.illegal, current, target, instanceId⟩

end Workflow
