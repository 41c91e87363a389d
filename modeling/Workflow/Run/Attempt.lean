import Workflow.Run.Backoff
import Workflow.Run.Proc
import Workflow.Settings

/-!
# Attempts of a step

One execution of a step's action: attempt after attempt, until one succeeds, the step allows no more,
or another caller has cancelled or paused the instance. After every attempt the store is asked for the
instance, and an interruption found there wins over whatever the attempt gave.
-/

namespace Workflow

open Time Number

/-- What runs are executed with. -/
structure Runner where
  settings : ExecutorSettings
  /-- The names of the registered actions, in order. -/
  actions : List String
  /-- The time that changes are stamped with. -/
  now : Timestamp
  /-- How many attempts beyond its own retries a step makes at most, when its action raises failures
  of its own that ask for more. -/
  patience : Nat

/-- What the store says about going on with a run. -/
inductive Interruption where
  /-- The run may go on. -/
  | none
  /-- The instance was cancelled or paused. -/
  | stopped (stored : Instance)
  /-- The store failed. -/
  | raised (failure : Failure)

/-- Whether a state that is found in the store stops a run. -/
def State.interrupts : State → Bool
  | .cancelled | .paused => true
  | _ => false

/-- Asks the store whether a run may go on. An instance that is no longer there does not stop it. -/
def checkInterrupted (id : String) : Proc Interruption := do
  match ← Proc.request (.load id) with
  | .ok stored => pure (if stored.state.interrupts then .stopped stored else .none)
  | .error (.workflow (.instanceNotFound _ _)) => pure .none
  | .error failure => pure (.raised failure)

/-- How the attempts of a step ended. -/
inductive AttemptsEnd where
  | succeeded (result : ActionResult)
  /-- The last attempt failed. -/
  | failed (error : StepError)
  /-- The instance was cancelled or paused. -/
  | stopped (stored : Instance)
  /-- The store or the wait failed. -/
  | raised (failure : Failure)

/-- The failure of an attempt of a step. -/
def Step.attemptError (step : Step) (attempt : Nat) (cause : StepCause) : StepError :=
  ⟨cause, step.id, attempt, step.retryAttempts, step.action⟩

/-- The failure of an attempt whose action raised one; failures of steps are passed on as they are. -/
def Step.raisedError (step : Step) (attempt : Nat) : Failure → StepError
  | .workflow (.step error) => error
  | failure => step.attemptError attempt (.raised failure.report)

/-- What an attempt makes of the reply of its action. -/
def Step.attemptResult (step : Step) (attempt : Nat) : Reply → Except StepError ActionResult
  | .other value => .error (step.attemptError attempt (.invalidResult value.kindName))
  | .result result =>
    if result.succeeded then .ok result
    else
      let message := match result.errorMessage with
        | some message => if message = "" then "Action failed" else message
        | none => "Action failed"
      .error (step.attemptError attempt (.failedResult message result.metadata))

/-- One attempt of a step: ask whether the action may be performed, and perform it. -/
def attemptOnce (step : Step) (action : String) (context : Context) (attempt : Nat) :
    Proc (Except StepError ActionResult) := do
  let invocation : Invocation := ⟨.attempt attempt, action, context⟩
  match ← Proc.request (.permits invocation) with
  | .error failure => pure (.error (step.raisedError attempt failure))
  | .ok false =>
    pure (.error (step.attemptError attempt (.failedResult "Action prerequisites not met" [])))
  | .ok true =>
    match ← Proc.request (.perform invocation) with
    | .error failure => pure (.error (step.raisedError attempt failure))
    | .ok reply => pure (step.attemptResult attempt reply)

/-- An event about an instance. -/
def Runner.event (runner : Runner) (inst : Instance) (body : EventBody) : Event :=
  ⟨inst.id, inst.definition.name, runner.now, body⟩

/-- Waits for the seconds that a drawn number gives. -/
def waitDrawn (wait : Binary64 → Except Fault Binary64) : Proc (Except Failure Unit) := do
  let fraction ← Proc.request .draw
  match wait fraction with
  | .error fault => pure (.error (.fault fault))
  | .ok seconds => Proc.request (.sleep seconds)

/-- The wait after an attempt, by a drawn number. -/
def Runner.backoff (runner : Runner) (attempt : Nat) : Binary64 → Except Fault Binary64 :=
  Workflow.backoff (.int attempt) (.float runner.settings.backoffBase)
    (.float runner.settings.backoffJitter)

/-- Waits before the next attempt, if the settings say so. -/
def Runner.wait (runner : Runner) (attempt : Nat) : Proc (Except Failure Unit) :=
  if runner.settings.retryBackoff then waitDrawn (runner.backoff attempt) else pure (.ok ())

/-- Makes attempts of a step from the given one on. The fuel bounds how many more are made. -/
def Runner.attempts (runner : Runner) (inst : Instance) (step : Step) (action : String)
    (context : Context) : (fuel attempt : Nat) → Proc AttemptsEnd
  | fuel, attempt => do
    match ← attemptOnce step action context attempt with
    | .ok result =>
      match ← checkInterrupted inst.id with
      | .stopped stored => pure (.stopped stored)
      | .raised failure => pure (.raised failure)
      | .none => pure (.succeeded result)
    | .error error =>
      match ← checkInterrupted inst.id with
      | .stopped stored => pure (.stopped stored)
      | .raised failure => pure (.raised failure)
      | .none => do
        Proc.emit (runner.event inst (.stepFailed step.id error.message attempt))
        match fuel with
        | 0 => pure (.failed error)
        | fuel + 1 =>
          if !error.canRetry then pure (.failed error)
          else do
            Proc.log .warning <| s!"Step {step.id} attempt {attempt}/{step.retryAttempts + 1} " ++
              s!"failed, retrying: {error.message}"
            match ← runner.wait attempt with
            | .error failure => pure (.raised failure)
            | .ok _ => runner.attempts inst step action context fuel (attempt + 1)

/-- Makes all attempts of a step. -/
def Runner.allAttempts (runner : Runner) (inst : Instance) (step : Step) (action : String)
    (context : Context) : Proc AttemptsEnd :=
  runner.attempts inst step action context (step.retryAttempts.toNat + runner.patience) 1

end Workflow
