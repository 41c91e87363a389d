import Workflow.Run.Failing

/-!
# Runs

A run drives one instance from step to step until it completes, fails or is interrupted. The instance is
saved before and after every step, so that a run that stops for any reason can be taken up again at its
current step.
-/

namespace Workflow

/-- The step to go to after one was processed: the target of the first transition whose condition holds.
Where transitions leave the step and none fires, it is the next declared step that was neither completed
nor skipped. -/
def selectTransition (inst : Instance) : List Transition → Except Failure (Option String)
  | [] => .ok none
  | transition :: rest => do
    let holds ← match transition.condition with
      | none => .ok true
      | some condition => Condition.evaluate (.text condition) (.dict inst.data)
    if holds then .ok (some transition.target) else selectTransition inst rest

/-- The next declared step that was neither completed nor skipped. -/
def fallbackStep? (inst : Instance) (key : String) : Option String :=
  ((inst.definition.stepsAfter key).find? fun step =>
    !inst.isCompleted (.text step.id) && !inst.skipped.contains (.text step.id)).map (·.id)

/-- Chooses the step to go to after the one under a key, and tells when it falls back on the order of
declaration. -/
def selectNext (inst : Instance) (key : String) : Proc (Except Failure (Option String)) :=
  let outgoing := inst.definition.outgoing key
  if outgoing.isEmpty then pure (.ok none)
  else match selectTransition inst outgoing with
    | .error failure => pure (.error failure)
    | .ok (some target) => pure (.ok (some target))
    | .ok none =>
      match fallbackStep? inst key with
      | none => pure (.ok none)
      | some id => do
        Proc.log .debug s!"No transition from {key} fired; falling back to {id}"
        pure (.ok (some id))

/-- How the steps of a run ended. -/
inductive StepsEnd where
  /-- The run completed or failed by its own rules. -/
  | finished (inst : Instance)
  /-- The instance was cancelled or paused. -/
  | stopped (stored : Instance)
  /-- A failure got in the way; `inst` is the instance as the run had it. -/
  | raised (inst : Instance) (failure : Failure)

/-- The end of a run that failed by its own rules. -/
def FailingEnd.toStepsEnd : FailingEnd → StepsEnd
  | .failed inst => .finished inst
  | .raised inst failure => .raised inst failure

/-- Ends a run after its last step. -/
def Runner.completeRun (runner : Runner) (inst : Instance) : Proc StepsEnd := do
  match inst.transitionTo .completed runner.now with
  | .error error => pure (.raised inst (.transition error))
  | .ok completed =>
    match ← Proc.request (.save completed) with
    | .error failure => pure (.raised completed failure)
    | .ok _ => do
      Proc.log .info s!"Workflow {completed.id} completed"
      Proc.emit (runner.event completed (.completed completed.data))
      pure (.finished completed)

/-- Ends a run that has used up its steps. -/
def Runner.exceedLimit (runner : Runner) (inst : Instance) (key : String) : Proc StepsEnd := do
  let error := StepError.stepLimit key runner.settings.maxSteps
  Proc.log .error error.message
  let ended ← runner.finalizeFailure inst error.message []
  pure ended.toStepsEnd

/-- Moves an instance to a step and saves it there. -/
def Runner.moveTo (runner : Runner) (inst : Instance) (key : String) :
    Proc (Instance × Except Failure Unit) := do
  match inst.setCurrentStep (.text key) runner.now with
  | .error error => pure (inst, .error (.transition error))
  | .ok moved => do
    let saved ← Proc.request (.save moved)
    pure (moved, saved)

/-- Executes steps from the one under a key on. `remaining` is how many more the run may execute. -/
def Runner.steps (runner : Runner) : (remaining : Nat) → Instance → (key : String) → Proc StepsEnd
  | remaining, inst, key => do
    match ← checkInterrupted inst.id with
    | .stopped stored => pure (.stopped stored)
    | .raised failure => pure (.raised inst failure)
    | .none =>
      match inst.definition.step? key with
      | none =>
        pure (.raised inst (.evaluation (.unknownStep key inst.definition.name)))
      | some step =>
        match remaining with
        | 0 => runner.exceedLimit inst key
        | remaining + 1 => do
          match ← runner.moveTo inst key with
          | (inst, .error failure) => pure (.raised inst failure)
          | (inst, .ok _) =>
            match ← runner.executeStep inst step with
            | .failed error => do
              let ended ← runner.failStep inst step error
              pure ended.toStepsEnd
            | .stopped stored => pure (.stopped stored)
            | .raised failure => pure (.raised inst failure)
            | .processed inst =>
              match ← selectNext inst key with
              | .error failure => pure (.raised inst failure)
              | .ok none => runner.completeRun inst
              | .ok (some next) =>
                match ← runner.moveTo inst next with
                | (inst, .error failure) => pure (.raised inst failure)
                | (inst, .ok _) => runner.steps remaining inst next

/-- Stores an instance as failed unless it has ended, and passes on the failure that got in the way of
its run. -/
def Runner.abort (runner : Runner) (inst : Instance) (message : String) (failure : Failure) :
    Proc (Except Failure Instance) := do
  if inst.state.isTerminal then pure (.error failure)
  else
    match ← runner.finalizeFailure inst message [] with
    | .failed _ => pure (.error failure)
    | .raised _ other => pure (.error other)

/-- What a run returns after its steps ended. -/
def Runner.conclude (runner : Runner) (id : String) : StepsEnd → Proc (Except Failure Instance)
  | .finished inst => pure (.ok inst)
  | .stopped stored => do
    Proc.log .info s!"Workflow {id} stopped: instance is {stored.state.name}"
    pure (.ok stored)
  | .raised inst failure =>
    match failure with
    | .workflow (.actionNotFound _ _ _) | .workflow (.evaluation _) => do
      Proc.log .error s!"Workflow {id} failed: {failure.text}"
      runner.abort inst failure.text failure
    | _ => do
      Proc.log .error s!"Workflow {id} aborted by an unexpected error"
      runner.abort inst s!"Unexpected error: {failure.text}" failure

/-- The step that a run starts with: the current one, or else the entry of the definition. -/
def firstStep? (inst : Instance) : Option String :=
  match inst.currentStep with
  | .text id => if id = "" then inst.definition.entry?.map (·.id) else some id
  | _ => inst.definition.entry?.map (·.id)

/-- Executes the steps of a running instance. -/
def Runner.drive (runner : Runner) (inst : Instance) : Proc (Except Failure Instance) :=
  match firstStep? inst with
  | none => pure (.error (.fault (Fault.noEntryStep.awaited)))
  | some key => do
    let ended ← runner.steps runner.settings.maxSteps.toNat inst key
    runner.conclude inst.id ended

/-- Runs an instance that has not ended. Step failures leave it failed and are not raised; failures
outside the rules leave it failed and are raised. -/
def Runner.run (runner : Runner) (inst : Instance) : Proc (Except Failure Instance) := do
  if inst.state.isTerminal then
    pure (.error (.transition ⟨.notResumable, inst.state, .running, some inst.id⟩))
  else if inst.state = .running then runner.drive inst
  else
    match inst.transitionTo .running runner.now with
    | .error error => pure (.error (.transition error))
    | .ok running =>
      match ← Proc.request (.save running) with
      | .error failure => pure (.error failure)
      | .ok _ => runner.drive running

end Workflow
