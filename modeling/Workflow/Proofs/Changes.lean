import Workflow.Instance.Basic

/-!
# Changes of instances

When a change of an instance is made, and what it changes.
-/

namespace Workflow

open Time

namespace Instance

variable {inst changed : Instance} {now : Timestamp}

/-- A move is made if the table has it, and changes the state alone. -/
theorem transitionTo_eq_ok {target : State} :
    inst.transitionTo target now = .ok changed ↔
      inst.state.canMoveTo target = true ∧
        changed = { inst with state := target, updatedAt := now } := by
  simp only [transitionTo, ensureTransition]
  cases inst.state.canMoveTo target with
  | true => simpa [bind, Except.bind, touch] using eq_comm
  | false => simp [bind, Except.bind]

theorem fail_eq_ok {message : Value} :
    inst.fail message now = .ok changed ↔
      inst.state.canMoveTo .failed = true ∧
        changed = { inst with state := .failed, updatedAt := now, errorMessage := message } := by
  simp only [fail, transitionTo, ensureTransition]
  cases inst.state.canMoveTo .failed with
  | true => simpa [bind, Except.bind, touch] using eq_comm
  | false => simp [bind, Except.bind]

/-- A change is made to an instance that has not ended. -/
theorem change_eq_ok {update : Instance → Instance} :
    inst.change now update = .ok changed ↔
      inst.state.isTerminal = false ∧ changed = (update inst).touch now := by
  simp only [change]
  cases inst.state.isTerminal with
  | true => simp
  | false => simpa using eq_comm

theorem setCurrentStep_eq_ok {step : Value} :
    inst.setCurrentStep step now = .ok changed ↔
      inst.state.isTerminal = false ∧
        changed = { inst with currentStep := step, updatedAt := now } :=
  change_eq_ok

theorem mergeData_eq_ok {data : Dict} :
    inst.mergeData data now = .ok changed ↔
      inst.state.isTerminal = false ∧
        changed = { inst with data := inst.data.overlay data, updatedAt := now } :=
  change_eq_ok

theorem markCompleted_eq_ok {step : Value} :
    inst.markCompleted step now = .ok changed ↔
      inst.state.isTerminal = false ∧
        changed = { inst with completed := inst.completed ++ [step], updatedAt := now } :=
  change_eq_ok

theorem markSkipped_eq_ok {step : Value} :
    inst.markSkipped step now = .ok changed ↔
      inst.state.isTerminal = false ∧
        changed = { inst with skipped := inst.skipped ++ [step], updatedAt := now } :=
  change_eq_ok

theorem markFailed_eq_ok {step error : String} :
    inst.markFailed step error now = .ok changed ↔
      inst.state.isTerminal = false ∧
        changed = { inst with failures := inst.failures ++ [⟨step, error, now⟩],
                              updatedAt := now } :=
  change_eq_ok

end Instance

end Workflow
