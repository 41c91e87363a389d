import Workflow.Condition
import Workflow.Run.Attempt
import Workflow.Template

/-!
# Executing a step

A step is executed in order: its preconditions are evaluated on the data, its parameters are rendered,
its action is made and attempted, and on success the data of the result are put into the instance and
the step is marked as completed.
-/

namespace Workflow

/-- How the execution of a step ended. Only a step that was processed has changed the instance. -/
inductive StepEnd where
  /-- The step was completed or skipped. -/
  | processed (inst : Instance)
  | failed (error : StepError)
  /-- The instance was cancelled or paused. -/
  | stopped (stored : Instance)
  | raised (failure : Failure)

/-- The context of an action of a step. -/
def Runner.context (runner : Runner) (inst : Instance) (step : Step) (config : Dict) : Context :=
  ⟨inst.id, step.id, inst.data, config, some inst, runner.now⟩

/-- The parameters of a step, rendered with the data of an instance. -/
def renderParameters (inst : Instance) (step : Step) : Except Failure Dict :=
  Template.renderEntries (.dict inst.data) step.parameters

/-- The failure of an action that is not registered. -/
def Runner.actionNotFound (runner : Runner) (action : String) (step : Step) : Failure :=
  .workflow (.actionNotFound (.text action) (some step.id) runner.actions)

/-- Marks a step as completed with the result of its action. -/
def Runner.complete (runner : Runner) (inst : Instance) (step : Step) (result : ActionResult) :
    Proc StepEnd := do
  let changed : Except TransitionError Instance := do
    let merged ← inst.mergeData result.data runner.now
    merged.markCompleted (.text step.id) runner.now
  match changed with
  | .error error => pure (.raised (.transition error))
  | .ok inst => do
    Proc.log .info s!"Step {step.id} of workflow {inst.id} completed"
    Proc.emit (runner.event inst (.stepCompleted step.id result.data))
    pure (.processed inst)

/-- Makes the action of a step and attempts it. A failure to make it is not retried. -/
def Runner.act (runner : Runner) (inst : Instance) (step : Step) (action : String)
    (config : Dict) : Proc StepEnd := do
  let context := runner.context inst step config
  if !runner.actions.contains action then pure (.raised (runner.actionNotFound action step))
  else
    match ← Proc.request (.make ⟨.attempt 1, action, context⟩) with
    | .error (.workflow (.actionNotFound name stepId available)) =>
      pure (.raised (.workflow (.actionNotFound name stepId available)))
    | .error failure => pure (.failed ⟨.raised failure.report, step.id, 1, 0, step.action⟩)
    | .ok _ =>
      match ← runner.allAttempts inst step action context with
      | .succeeded result => runner.complete inst step result
      | .failed error => pure (.failed error)
      | .stopped stored => pure (.stopped stored)
      | .raised failure => pure (.raised failure)

/-- Leaves out a step whose precondition does not hold, or fails it, as the settings say. -/
def Runner.declineStep (runner : Runner) (inst : Instance) (step : Step) (condition : String) :
    Proc StepEnd :=
  match runner.settings.policy with
  | .fail => pure (.failed (.precondition step.id condition))
  | .skip => do
    Proc.log .info <| s!"Skipping step {step.id} of workflow {inst.id}: " ++
      s!"precondition '{condition}' not met"
    match inst.markSkipped (.text step.id) runner.now with
    | .ok inst => pure (.processed inst)
    | .error error => pure (.raised (.transition error))

/-- Executes a step. A step without an action succeeds at once. -/
def Runner.executeStep (runner : Runner) (inst : Instance) (step : Step) : Proc StepEnd :=
  match Condition.firstFalse? .text (.dict inst.data) step.conditions with
  | .error failure => pure (.raised failure)
  | .ok (some condition) => runner.declineStep inst step condition
  | .ok none => do
    Proc.log .info s!"Executing step {step.id} of workflow {inst.id}"
    match renderParameters inst step with
    | .error failure => pure (.raised failure)
    | .ok config =>
      match step.action with
      | none => runner.complete inst step (.succeed [])
      | some action => runner.act inst step action config

end Workflow
