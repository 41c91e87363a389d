import Workflow.Text.Case

/-!
# The life of an instance

An instance is pending when it is made, runs, may wait or be paused in between, and ends completed,
failed or cancelled. `State.successors` is the whole table of legal moves: no move leads out of a
terminal state.
-/

namespace Workflow

/-- The state of a workflow instance. -/
inductive State where
  | pending
  | running
  | waiting
  | paused
  | completed
  | failed
  | cancelled
  deriving DecidableEq

namespace State

/-- All states, in the order of their life. -/
def all : List State :=
  [.pending, .running, .waiting, .paused, .completed, .failed, .cancelled]

/-- The name of a state in documents and records. -/
def name : State → String
  | .pending => "pending"
  | .running => "running"
  | .waiting => "waiting"
  | .paused => "paused"
  | .completed => "completed"
  | .failed => "failed"
  | .cancelled => "cancelled"

/-- The state with a given name. -/
def ofName? (name : String) : Option State :=
  all.find? (·.name == name)

/-- The name of a state as a heading. -/
def label (state : State) : String :=
  Text.capitalized state.name

/-- Whether an instance in the state can still move. -/
def isActive : State → Bool
  | .pending | .running | .waiting | .paused => true
  | .completed | .failed | .cancelled => false

/-- Whether an instance in the state has ended. -/
def isTerminal (state : State) : Bool :=
  !state.isActive

/-- The states that an instance may move to, by name. -/
def successors : State → List State
  | .pending => [.cancelled, .running]
  | .running => [.cancelled, .completed, .failed, .paused, .waiting]
  | .waiting => [.cancelled, .failed, .running]
  | .paused => [.cancelled, .running]
  | .completed | .failed | .cancelled => []

/-- Whether the move from one state to another is legal. -/
def canMoveTo (current target : State) : Bool :=
  current.successors.contains target

theorem ofName?_name (state : State) : ofName? state.name = some state := by
  cases state <;> decide

theorem successors_eq_nil_iff (state : State) : state.successors = [] ↔ state.isTerminal := by
  cases state <;> decide

end State

end Workflow
