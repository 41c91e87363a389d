import Mathlib.Data.ENat.Lattice
import Workflow.Proofs.Outcome
import Workflow.Proofs.Passage

/-!
# How many attempts a step takes

An action is attempted until it succeeds, or until the step allows no more.  Whether it does is told
by the failure of the attempt: it carries the number of the attempt and the retries of the step,
except where the action raised a failure of a step itself.  Such a failure is passed on with the
numbers that it came with, and then they decide.
-/

namespace Workflow

open Proc Number

/-- What an action does in one attempt: whether it may be performed, and what it gives if it may. -/
structure Conduct where
  permits : Except Failure Bool
  perform : Except Failure Reply

/-- What an action does in each attempt of a step, counted from 1. -/
abbrev Behaviour := Nat → Conduct

namespace Conduct

/-- The action may be performed, and gives a result that is a success. -/
def Succeeds (conduct : Conduct) : Prop :=
  conduct.permits = .ok true ∧
    ∃ result, conduct.perform = .ok (.result result) ∧ result.succeeded = true

/-- What is asked of the action in one attempt, and how it answers. -/
def exchanges (conduct : Conduct) (invocation : Invocation) : List Request.Answered :=
  ⟨.permits invocation, conduct.permits⟩ ::
    match conduct.permits with
    | .ok true => [⟨.perform invocation, conduct.perform⟩]
    | _ => []

/-- The failure of a step that the action raises itself. -/
def raised? (conduct : Conduct) : Option StepError :=
  match conduct.permits, conduct.perform with
  | .error (.workflow (.step error)), _ => some error
  | .ok true, .error (.workflow (.step error)) => some error
  | _, _ => none

/-- The outcome of an attempt. -/
def outcome (conduct : Conduct) (step : Step) (attempt : Nat) : Except StepError ActionResult :=
  match conduct.permits with
  | .error failure => .error (step.raisedError attempt failure)
  | .ok false =>
    .error (step.attemptError attempt (.failedResult "Action prerequisites not met" []))
  | .ok true =>
    match conduct.perform with
    | .error failure => .error (step.raisedError attempt failure)
    | .ok reply => step.attemptResult attempt reply

/-- A failed attempt is told with its number and the retries of the step, unless the action raised
the failure itself. -/
theorem canRetry_of_outcome {conduct : Conduct} {step : Step} {attempt : Nat} {error : StepError}
    (fails : conduct.outcome step attempt = .error error) :
    conduct.raised? = some error ∨
      (error.canRetry = true ↔ (attempt : Int) ≤ step.retryAttempts) := by
  have told : ∀ cause, (step.attemptError attempt cause).canRetry = true ↔
      (attempt : Int) ≤ step.retryAttempts := by
    intro cause
    exact decide_eq_true_iff
  have passed : ∀ failure, failure = .workflow (.step (step.raisedError attempt failure)) ∨
      ((step.raisedError attempt failure).canRetry = true ↔
        (attempt : Int) ≤ step.retryAttempts) := by
    intro failure
    unfold Step.raisedError
    split
    · exact .inl rfl
    · exact .inr (told _)
  rcases conduct with ⟨permits, perform⟩
  simp only [outcome, raised?] at fails ⊢
  match permits, perform with
  | .error failure, _ =>
      cases fails
      rcases passed failure with own | told
      · rw [own]
        exact .inl rfl
      · exact .inr told
  | .ok false, _ =>
      cases fails
      exact .inr (told _)
  | .ok true, .error failure =>
      cases fails
      rcases passed failure with own | told
      · rw [own]
        exact .inl rfl
      · exact .inr told
  | .ok true, .ok (.other value) =>
      cases fails
      exact .inr (told _)
  | .ok true, .ok (.result result) =>
      simp only [Step.attemptResult] at fails
      split at fails
      · cases fails
      · cases fails
        exact .inr (told _)

end Conduct

namespace Behaviour

/-- What is asked of the action of a step in so many attempts from one on, and how it answers. -/
def exchanges (behaviour : Behaviour) (action : String) (context : Context) (attempt count : Nat) :
    List Request.Answered :=
  (List.range' attempt count).flatMap fun number =>
    (behaviour number).exchanges ⟨.attempt number, action, context⟩

/-- The world of one execution of a step: its action is made and behaves, nobody cancels or pauses
the instance, and waits take place.  All else may be answered anyhow, so every undisturbed execution
is a course in this world. -/
def world (behaviour : Behaviour) : World Unit
  | .make _, _, answer, _ => answer = .ok ()
  | .permits invocation, _, answer, _ =>
    ∀ attempt, invocation.purpose = .attempt attempt → answer = (behaviour attempt).permits
  | .perform invocation, _, answer, _ =>
    ∀ attempt, invocation.purpose = .attempt attempt → answer = (behaviour attempt).perform
  | .load _, _, answer, _ => Interruption.ofLoaded answer = .none
  | .sleep _, _, answer, _ => answer = .ok ()
  | _, _, _, _ => True

/-- Answers in that world. -/
def serve (behaviour : Behaviour) : (request : Request) → Unit → request.Answer × Unit
  | .make _, _ => (.ok (), ())
  | .permits ⟨.attempt attempt, _, _⟩, _ => ((behaviour attempt).permits, ())
  | .permits ⟨.compensation, _, _⟩, _ => (.ok true, ())
  | .perform ⟨.attempt attempt, _, _⟩, _ => ((behaviour attempt).perform, ())
  | .perform ⟨.compensation, _, _⟩, _ => (.ok (.other .null), ())
  | .load id, _ => (.error (.workflow (.instanceNotFound id none)), ())
  | .contains _, _ | .remove _, _ => (.ok false, ())
  | .save _, _ | .sleep _, _ => (.ok (), ())
  | .list _, _ => (.ok [], ())
  | .draw, _ => (.zero, ())
  | .freshId, _ => ("", ())
  | .emit _, _ => (true, ())
  | .log _, _ => ((), ())
  | .http _, _ => (.unreached "", ())

theorem world_serve (behaviour : Behaviour) (request : Request) (state : Unit) :
    behaviour.world request state (behaviour.serve request state).1
      (behaviour.serve request state).2 := by
  cases request with
  | permits invocation =>
      rcases invocation with ⟨_ | _, _, _⟩
      · rintro _ ⟨⟩
        rfl
      · rintro _ ⟨⟩
  | perform invocation =>
      rcases invocation with ⟨_ | _, _, _⟩
      · rintro _ ⟨⟩
        rfl
      · rintro _ ⟨⟩
  | make | load | sleep => rfl
  | contains | save | remove | list | draw | freshId | emit | log | http => trivial

end Behaviour

/-! ## One execution of a step -/

section Execution

variable {behaviour : Behaviour} {runner : Runner} {inst : Instance} {step : Step}
variable {action : String} {context : Context} {exchanges : List Request.Answered} {final : Unit}

end Execution

/-- Failures of a step that the action raises itself ask for another attempt just when the step
allows one, as long as it does. -/
def Behaviour.Faithful (behaviour : Behaviour) (step : Step) : Prop :=
  ∀ attempt error, attempt ≤ step.retryAttempts.toNat + 1 →
    (behaviour attempt).raised? = some error →
    (error.canRetry = true ↔ (attempt : Int) ≤ step.retryAttempts)

theorem Behaviour.Faithful.canRetry {behaviour : Behaviour} {step : Step}
    (faithful : behaviour.Faithful step) {attempt : Nat} {error : StepError}
    (within : attempt ≤ step.retryAttempts.toNat + 1)
    (fails : (behaviour attempt).outcome step attempt = .error error) :
    error.canRetry = true ↔ (attempt : Int) ≤ step.retryAttempts := by
  rcases Conduct.canRetry_of_outcome fails with raised | told
  · exact faithful attempt error within raised
  · exact told

/-- An instance whose action is at hand. -/
def Instance.ready : Instance :=
  { Instance.fresh "w" .reversible [] default with state := .running }

end Workflow
