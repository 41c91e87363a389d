import Workflow.Run.StepExecution

/-!
# Failing a run

When a step fails, the steps that were completed are undone, the latest first, and the instance is
stored as failed with the message of the failed step. What goes wrong while a step is undone is told in
the log.
-/

namespace Workflow

/-- How failing a run ended: with the failed instance, or with another failure while it was under
way. -/
inductive FailingEnd where
  | failed (inst : Instance)
  | raised (inst : Instance) (failure : Failure)

/-- Stores an instance as failed. -/
def Runner.finalizeFailure (runner : Runner) (inst : Instance) (message : String)
    (context : Dict) : Proc FailingEnd := do
  match inst.fail (.text message) runner.now with
  | .error error => pure (.raised inst (.transition error))
  | .ok failed =>
    match ← Proc.request (.save failed) with
    | .error failure => pure (.raised failed failure)
    | .ok _ => do
      Proc.emit (runner.event failed (.failed message context))
      pure (.failed failed)

/-- The ids without those that stand earlier in the list. -/
def firstOccurrences : List String → List String
  | [] => []
  | id :: rest => id :: (firstOccurrences rest).filter (· ≠ id)

/-- The steps to undo when a step fails: the failed one and then the completed ones from the latest
on, each once and only if it has a compensation. -/
def compensationOrder (inst : Instance) (failed : Step) : List Step :=
  ((firstOccurrences (failed.id :: inst.completed.reverse.filterMap Value.text?)).filterMap
    inst.definition.step?).filter (·.compensation.isSome)

/-- The line for a compensation that did not go well. -/
def compensationLine (inst : Instance) (step : Step) (action outcome : String) : String :=
  s!"Compensation {action} for step {step.id} of workflow {inst.id} {outcome}"

/-- What is told about a compensation, given the reply of its action. -/
def compensationRecord (inst : Instance) (step : Step) (action : String) : Reply → LogRecord
  | .other value => ⟨.error, compensationLine inst step action s!"failed: {value.display}"⟩
  | .result result =>
    if result.succeeded then ⟨.info, s!"Compensated step {step.id} of workflow {inst.id}"⟩
    else
      let message := result.errorMessage.getD ""
      ⟨.error, compensationLine inst step action s!"failed: {message}"⟩

/-- Makes and performs the action that undoes a step. -/
def Runner.performCompensation (runner : Runner) (action : String) (step : Step)
    (context : Context) : Proc (Except Failure Reply) := do
  let invocation : Invocation := ⟨.compensation, action, context⟩
  if !runner.actions.contains action then pure (.error (runner.actionNotFound action step))
  else
    match ← Proc.request (.make invocation) with
    | .error failure => pure (.error failure)
    | .ok _ => Proc.request (.perform invocation)

/-- Undoes the given steps. Only parameters that cannot be rendered stop it. -/
def Runner.compensate (runner : Runner) (inst : Instance) : List Step → Proc (Except Failure Unit)
  | [] => pure (.ok ())
  | step :: rest =>
    match step.compensation with
    | none => runner.compensate inst rest
    | some action =>
      match renderParameters inst step with
      | .error failure => pure (.error failure)
      | .ok config => do
        match ← runner.performCompensation action step (runner.context inst step config) with
        | .error _ => Proc.log .error (compensationLine inst step action "raised")
        | .ok reply => Proc.request (.log (compensationRecord inst step action reply))
        runner.compensate inst rest

/-- Ends a run whose step failed. -/
def Runner.failStep (runner : Runner) (inst : Instance) (step : Step) (error : StepError) :
    Proc FailingEnd := do
  Proc.log .error s!"Step {step.id} of workflow {inst.id} failed: {error.message}"
  match inst.markFailed step.id error.message runner.now with
  | .error refused => pure (.raised inst (.transition refused))
  | .ok inst =>
    match ← runner.compensate inst (compensationOrder inst step) with
    | .error failure => pure (.raised inst failure)
    | .ok _ => runner.finalizeFailure inst error.message error.context

end Workflow
