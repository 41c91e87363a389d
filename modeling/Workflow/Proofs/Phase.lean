import Workflow.Proofs.Changes
import Workflow.Proofs.Course
import Workflow.Run.Executor

/-!
# Phases of a run

A run goes from phase to phase: it looks whether it was interrupted, enters a step, makes
attempts of its action, leaves the step for the next one, and in the end completes, undoes steps
and fails, or passes on a failure.  Every phase holds what the rest of the run depends on.  The
saves, the looks into the store and the events of a run are relations of their own, since most of
what is said about a run is said about these.
-/

namespace Workflow

/-- What the store says about going on, by its answer to a look. -/
def Interruption.ofLoaded : Except Failure Instance → Interruption
  | .ok stored => if stored.state.interrupts then .stopped stored else .none
  | .error (.workflow (.instanceNotFound _ _)) => .none
  | .error failure => .raised failure

theorem State.of_interrupts {state : State} (interrupts : state.interrupts = true) :
    state = .cancelled ∨ state = .paused := by
  revert interrupts
  cases state <;> decide

theorem checkInterrupted_eq (id : String) :
    checkInterrupted id = .ask (.load id) fun loaded => .done (.ofLoaded loaded) := by
  simp only [checkInterrupted]
  refine congrArg (Proc.ask (.load id)) (funext fun loaded => ?_)
  simp only [Proc.done_bind]
  split
  · rfl
  · rfl
  · simp_all [Interruption.ofLoaded]

/-- The step to go to after the one under a key. -/
def chosenStep (inst : Instance) (key : String) : Except Failure (Option String) :=
  let outgoing := inst.definition.outgoing key
  if outgoing.isEmpty then .ok none
  else match selectTransition inst outgoing with
    | .error failure => .error failure
    | .ok (some target) => .ok (some target)
    | .ok none => .ok (fallbackStep? inst key)

/-- Choosing the next step asks for nothing, but it may be told in the log. -/
theorem selectNext_eq (inst : Instance) (key : String) :
    selectNext inst key = .done (chosenStep inst key) ∨
      ∃ line, selectNext inst key =
        (Proc.log .debug line).bind fun _ => .done (chosenStep inst key) := by
  simp only [selectNext, chosenStep]
  by_cases leaves : (inst.definition.outgoing key).isEmpty = true
  · simp only [leaves, ↓reduceIte]
    exact .inl rfl
  · simp only [leaves, Bool.false_eq_true, ↓reduceIte]
    cases selectTransition inst (inst.definition.outgoing key) with
    | error failure => exact .inl rfl
    | ok target =>
        cases target with
        | some target => exact .inl rfl
        | none =>
            cases fallbackStep? inst key with
            | none => exact .inl rfl
            | some id => exact .inr ⟨_, rfl⟩

/-- The instance after a step was completed with a result. -/
def Runner.completed (runner : Runner) (inst : Instance) (step : Step) (result : ActionResult) :
    Instance :=
  { inst with
    data := inst.data.overlay result.data
    completed := inst.completed ++ [.text step.id]
    updatedAt := runner.now }

/-- A result completes a step of an instance that has not ended. -/
theorem complete_eq {runner : Runner} {inst : Instance} (active : inst.state.isTerminal = false)
    (step : Step) (result : ActionResult) :
    runner.complete inst step result =
      (Proc.log .info s!"Step {step.id} of workflow {inst.id} completed").bind fun _ =>
        (Proc.emit (runner.event (runner.completed inst step result)
          (.stepCompleted step.id result.data))).bind fun _ =>
            .done (.processed (runner.completed inst step result)) := by
  have merges : inst.mergeData result.data runner.now = .ok _ :=
    Instance.mergeData_eq_ok.mpr ⟨active, rfl⟩
  have marks : ({ inst with data := inst.data.overlay result.data, updatedAt := runner.now } :
      Instance).markCompleted (.text step.id) runner.now =
        .ok (runner.completed inst step result) :=
    Instance.markCompleted_eq_ok.mpr ⟨active, rfl⟩
  simp only [Runner.complete]
  simp only [merges, bind, Except.bind, marks]
  rfl

/-- The message that an instance is stored with when a failure gets in the way of its run. -/
def Failure.abortMessage (failure : Failure) : String :=
  match failure with
  | .workflow (.actionNotFound _ _ _) | .workflow (.evaluation _) => failure.text
  | _ => s!"Unexpected error: {failure.text}"

/-- A failure that got in the way is told, and aborts the run with its message. -/
theorem conclude_raised_eq (runner : Runner) (id : String) (inst : Instance) (failure : Failure) :
    ∃ line, runner.conclude id (.raised inst failure) =
      (Proc.log .error line).bind fun _ => runner.abort inst failure.abortMessage failure := by
  simp only [Runner.conclude]
  split
  · exact ⟨_, rfl⟩
  · exact ⟨_, rfl⟩
  · refine ⟨s!"Workflow {id} aborted by an unexpected error", ?_⟩
    have message : failure.abortMessage = s!"Unexpected error: {failure.text}" := by
      unfold Failure.abortMessage
      split <;> simp_all
    rw [message]
    rfl

/-- A step that a run executes: the instance as it stands at the step, and how many more steps the
run may execute afterwards. -/
structure Visit where
  remaining : Nat
  inst : Instance
  key : String
  step : Step

/-- An attempt of the action of a step, with its rendered parameters. The fuel bounds the attempts
after it. -/
structure Trial where
  visit : Visit
  action : String
  config : Dict
  fuel : Nat
  attempt : Nat

namespace Trial

/-- The attempt after this one. -/
def again (trial : Trial) : Trial :=
  { trial with attempt := trial.attempt + 1 }

/-- What the action of an attempt is given. -/
def context (trial : Trial) (runner : Runner) : Context :=
  runner.context trial.visit.inst trial.visit.step trial.config

/-- The use that an attempt makes of its action. -/
def invocation (trial : Trial) (runner : Runner) : Invocation :=
  ⟨.attempt trial.attempt, trial.action, trial.context runner⟩

/-- The use for which the action of a step is made. -/
def making (trial : Trial) (runner : Runner) : Invocation :=
  ⟨.attempt 1, trial.action, trial.context runner⟩

/-- The outcome of an attempt, by the answer of its action. -/
def outcome (trial : Trial) : Except Failure Reply → Except StepError ActionResult
  | .error failure => .error (trial.visit.step.raisedError trial.attempt failure)
  | .ok reply => trial.visit.step.attemptResult trial.attempt reply

/-- The failure of a step whose action cannot be made. -/
def unmade (trial : Trial) (failure : Failure) : StepError :=
  ⟨.raised failure.report, trial.visit.step.id, 1, 0, trial.visit.step.action⟩

/-- The failure of an attempt whose action may not be performed. -/
def unmet (trial : Trial) : StepError :=
  trial.visit.step.attemptError trial.attempt (.failedResult "Action prerequisites not met" [])

end Trial

/-- Where a run stands. -/
inductive Phase where
  /-- It was called. -/
  | idle (inst : Instance)
  /-- The instance is running. -/
  | begun (inst : Instance)
  /-- It is about to look whether it may go on with the step under a key. -/
  | loop (remaining : Nat) (inst : Instance) (key : String)
  /-- It may go on. -/
  | clear (remaining : Nat) (inst : Instance) (key : String)
  /-- The instance was saved at a step. -/
  | visit (visit : Visit)
  /-- The action of the step is to be made. -/
  | making (trial : Trial)
  /-- An attempt is to be made. -/
  | attempt (trial : Trial)
  /-- The action may be performed. -/
  | permitted (trial : Trial)
  /-- An attempt was made; whether it counts is up to the store. -/
  | tried (trial : Trial) (outcome : Except StepError ActionResult)
  /-- An attempt failed. -/
  | broken (trial : Trial) (error : StepError)
  /-- The failure of an attempt was told. -/
  | reported (trial : Trial) (error : StepError)
  /-- There is to be another attempt. -/
  | waiting (trial : Trial)
  /-- There is to be another attempt, after so many seconds. -/
  | resting (trial : Trial) (seconds : Number.Binary64)
  /-- The step succeeded. -/
  | succeeded (visit : Visit) (result : ActionResult)
  /-- The result is in the instance. -/
  | recorded (visit : Visit) (result : ActionResult)
  /-- A step was completed or skipped. -/
  | processed (remaining : Nat) (inst : Instance) (key : String)
  /-- The next step was chosen. -/
  | leaving (remaining : Nat) (inst : Instance) (key : String)
  /-- No step is left. -/
  | finishing (inst : Instance)
  /-- The instance was saved as completed. -/
  | completed (inst : Instance)
  /-- A step failed. -/
  | failing (inst : Instance) (step : Step) (error : StepError)
  /-- Steps are still to be undone. -/
  | undoing (inst : Instance) (error : StepError) (pending : List Step)
  /-- The action that undoes a step was made. -/
  | undo (inst : Instance) (error : StepError) (invocation : Invocation) (pending : List Step)
  /-- The instance is to be saved as failed; a failure is passed on if there is one. -/
  | closing (inst : Instance) (message : String) (context : Dict) (failure : Option Failure)
  /-- The instance was saved as failed. -/
  | closed (inst : Instance) (message : String) (context : Dict) (failure : Option Failure)
  /-- A failure got in the way. -/
  | raised (inst : Instance) (failure : Failure)
  /-- The instance was found cancelled or paused. -/
  | stopped (stored : Instance)
  /-- The run is over. -/
  | ended (result : Except Failure Instance)

namespace Phase

/-- The instance that a run works on, from the time it runs to the time it is saved for the last
time. -/
def worked? : Phase → Option Instance
  | .begun inst | .loop _ inst _ | .clear _ inst _ | .processed _ inst _ | .leaving _ inst _
  | .finishing inst | .failing inst _ _ | .undoing inst _ _ | .undo inst _ _ _
  | .closing inst _ _ _ | .raised inst _ => some inst
  | .visit entered | .succeeded entered _ | .recorded entered _ => some entered.inst
  | .making trial | .attempt trial | .permitted trial | .tried trial _ | .broken trial _
  | .reported trial _ | .waiting trial | .resting trial _ => some trial.visit.inst
  | .idle _ | .completed _ | .closed _ _ _ _ | .stopped _ | .ended _ => none

/-- The phase after a look that lets a run go on to another phase. -/
def afterLook (inst : Instance) (onward : Phase) : Interruption → Phase
  | .none => onward
  | .stopped stored => .stopped stored
  | .raised failure => .raised inst failure

/-- The phase after an attempt that was not interrupted. -/
def afterTrial (trial : Trial) : Except StepError ActionResult → Phase
  | .ok result => .succeeded trial.visit result
  | .error error => .broken trial error

@[simp] theorem worked?_afterTrial (trial : Trial) (outcome : Except StepError ActionResult) :
    (afterTrial trial outcome).worked? = some trial.visit.inst := by
  cases outcome <;> rfl

/-- The phase after the action of a step was asked for. -/
def afterMake (trial : Trial) : Except Failure Unit → Phase
  | .ok _ => .attempt trial
  | .error (.workflow (.actionNotFound name step available)) =>
    .raised trial.visit.inst (.workflow (.actionNotFound name step available))
  | .error failure => .failing trial.visit.inst trial.visit.step (trial.unmade failure)

/-- Any failure to make an action but that it is not registered fails the step. -/
theorem afterMake_error {trial : Trial} {failure : Failure}
    (registered : ∀ name step available,
      failure = .workflow (.actionNotFound name step available) → False) :
    afterMake trial (.error failure) =
      .failing trial.visit.inst trial.visit.step (trial.unmade failure) := by
  unfold afterMake
  split <;> simp_all

@[simp] theorem worked?_afterMake (trial : Trial) (answer : Except Failure Unit) :
    (afterMake trial answer).worked? = some trial.visit.inst := by
  simp only [afterMake]
  split <;> rfl

/-- The phase after it was asked whether an action may be performed. -/
def afterPermit (trial : Trial) : Except Failure Bool → Phase
  | .ok true => .permitted trial
  | .ok false => .tried trial (.error trial.unmet)
  | .error failure => .tried trial (.error (trial.visit.step.raisedError trial.attempt failure))

@[simp] theorem worked?_afterPermit (trial : Trial) (answer : Except Failure Bool) :
    (afterPermit trial answer).worked? = some trial.visit.inst := by
  simp only [afterPermit]
  split <;> rfl

/-- The phase after a number was drawn for the wait before the next attempt. -/
def afterDraw (trial : Trial) (wait : Number.Binary64 → Except Fault Number.Binary64)
    (fraction : Number.Binary64) : Phase :=
  match wait fraction with
  | .ok seconds => .resting trial seconds
  | .error fault => .raised trial.visit.inst (.fault fault)

@[simp] theorem worked?_afterDraw (trial : Trial)
    (wait : Number.Binary64 → Except Fault Number.Binary64) (fraction : Number.Binary64) :
    (afterDraw trial wait fraction).worked? = some trial.visit.inst := by
  simp only [afterDraw]
  split <;> rfl

/-- The phase after the wait before the next attempt. -/
def afterRest (trial : Trial) : Except Failure Unit → Phase
  | .ok _ => .attempt trial.again
  | .error failure => .raised trial.visit.inst failure

@[simp] theorem worked?_afterRest (trial : Trial) (answer : Except Failure Unit) :
    (afterRest trial answer).worked? = some trial.visit.inst := by
  cases answer <;> rfl

/-- The phase after the action that undoes a step was asked for. -/
def afterUnmake (inst : Instance) (error : StepError) (invocation : Invocation)
    (pending : List Step) : Except Failure Unit → Phase
  | .ok _ => .undo inst error invocation pending
  | .error _ => .undoing inst error pending

@[simp] theorem worked?_afterUnmake (inst : Instance) (error : StepError)
    (invocation : Invocation) (pending : List Step) (answer : Except Failure Unit) :
    (afterUnmake inst error invocation pending answer).worked? = some inst := by
  cases answer <;> rfl

variable (runner : Runner)

/-- The saves of a run: where it makes them, of which instance, and the phases in which it goes on
when the instance was kept and when it was lost. -/
inductive Saves : Phase → Instance → Phase → (Failure → Phase) → Prop where
  | start {inst running : Instance} : inst.state.isTerminal = false → inst.state ≠ .running →
      inst.transitionTo .running runner.now = .ok running →
      Saves (.idle inst) running (.begun running) fun failure => .ended (.error failure)
  | enter {remaining : Nat} {inst moved : Instance} {key : String} {step : Step} :
      inst.definition.step? key = some step →
      inst.setCurrentStep (.text key) runner.now = .ok moved →
      Saves (.clear (remaining + 1) inst key) moved (.visit ⟨remaining, moved, key, step⟩)
        (.raised moved)
  | leave {remaining : Nat} {inst moved : Instance} {key : String} :
      inst.setCurrentStep (.text key) runner.now = .ok moved →
      Saves (.leaving remaining inst key) moved (.loop remaining moved key) (.raised moved)
  | complete {inst completed : Instance} :
      inst.transitionTo .completed runner.now = .ok completed →
      Saves (.finishing inst) completed (.completed completed) (.raised completed)
  | fail {inst failed : Instance} {message : String} {context : Dict} :
      inst.fail (.text message) runner.now = .ok failed →
      Saves (.closing inst message context none) failed (.closed failed message context none)
        (.raised failed)
  | abort {inst failed : Instance} {message : String} {context : Dict} {failure : Failure} :
      inst.fail (.text message) runner.now = .ok failed →
      Saves (.closing inst message context (some failure)) failed
        (.closed failed message context (some failure)) fun other => .ended (.error other)

/-- The looks of a run into the store, and the phases in which it goes on when it may. -/
inductive Looks : Phase → Instance → Phase → Prop where
  | before {remaining : Nat} {inst : Instance} {key : String} :
      Looks (.loop remaining inst key) inst (.clear remaining inst key)
  | after {trial : Trial} {outcome : Except StepError ActionResult} :
      Looks (.tried trial outcome) trial.visit.inst (afterTrial trial outcome)

/-- The events of a run. -/
inductive Emits : Phase → Event → Phase → Prop where
  | stepFailed {trial : Trial} {error : StepError} :
      Emits (.broken trial error)
        (runner.event trial.visit.inst
          (.stepFailed trial.visit.step.id error.message trial.attempt))
        (.reported trial error)
  | stepCompleted {visit : Visit} {result : ActionResult} :
      Emits (.recorded visit result)
        (runner.event visit.inst (.stepCompleted visit.step.id result.data))
        (.processed visit.remaining visit.inst visit.key)
  | completed {inst : Instance} :
      Emits (.completed inst) (runner.event inst (.completed inst.data)) (.ended (.ok inst))
  | failed {inst : Instance} {message : String} {context : Dict} :
      Emits (.closed inst message context none) (runner.event inst (.failed message context))
        (.ended (.ok inst))
  | aborted {inst : Instance} {message : String} {context : Dict} {failure : Failure} :
      Emits (.closed inst message context (some failure))
        (runner.event inst (.failed message context)) (.ended (.error failure))

/-- What a run asks of actions and of the clock in a phase, and where each answer leads to. -/
inductive Acts : Phase → (request : Request) → request.Answer → Phase → Prop where
  | make {trial : Trial} {answer : Except Failure Unit} :
      Acts (.making trial) (.make (trial.making runner)) answer (afterMake trial answer)
  | permit {trial : Trial} {answer : Except Failure Bool} :
      Acts (.attempt trial) (.permits (trial.invocation runner)) answer (afterPermit trial answer)
  | perform {trial : Trial} {answer : Except Failure Reply} :
      Acts (.permitted trial) (.perform (trial.invocation runner)) answer
        (.tried trial (trial.outcome answer))
  | draw {trial : Trial} {fraction : Number.Binary64} : runner.settings.retryBackoff = true →
      Acts (.waiting trial) .draw fraction
        (afterDraw trial (runner.backoff trial.attempt) fraction)
  | rest {trial : Trial} {seconds : Number.Binary64} {answer : Except Failure Unit} :
      Acts (.resting trial seconds) (.sleep seconds) answer (afterRest trial answer)
  | unmake {inst : Instance} {error : StepError} {step : Step} {pending : List Step}
      {action : String} {config : Dict} {answer : Except Failure Unit} :
      step.compensation = some action → renderParameters inst step = .ok config →
      runner.actions.contains action = true →
      Acts (.undoing inst error (step :: pending))
        (.make ⟨.compensation, action, runner.context inst step config⟩) answer
        (afterUnmake inst error ⟨.compensation, action, runner.context inst step config⟩ pending
          answer)
  | undo {inst : Instance} {error : StepError} {invocation : Invocation} {pending : List Step}
      {answer : Except Failure Reply} :
      Acts (.undo inst error invocation pending) (.perform invocation) answer
        (.undoing inst error pending)

/-- The moves of a run: what it asks in a phase, and where each answer leads to. -/
inductive Moves : Phase → (request : Request) → request.Answer → Phase → Prop where
  | log {phase : Phase} {record : LogRecord} : Moves phase (.log record) () phase
  | keep {phase kept : Phase} {saved : Instance} {lost : Failure → Phase} :
      Saves runner phase saved kept lost → Moves phase (.save saved) (.ok ()) kept
  | lose {phase kept : Phase} {saved : Instance} {lost : Failure → Phase} {failure : Failure} :
      Saves runner phase saved kept lost → Moves phase (.save saved) (.error failure) (lost failure)
  | look {phase onward : Phase} {inst : Instance} {answer : Except Failure Instance} :
      Looks phase inst onward →
      Moves phase (.load inst.id) answer (afterLook inst onward (.ofLoaded answer))
  | emit {phase after : Phase} {event : Event} {delivered : Bool} :
      Emits runner phase event after → Moves phase (.emit event) delivered after
  | act {phase after : Phase} {request : Request} {answer : request.Answer} :
      Acts runner phase request answer after → Moves phase request answer after

/-- The phases that a run leaves by itself. -/
inductive Shifts : Phase → Phase → Prop where
  | unresumable {inst : Instance} : inst.state.isTerminal = true →
      Shifts (.idle inst)
        (.ended (.error (.transition ⟨.notResumable, inst.state, .running, some inst.id⟩)))
  | unstartable {inst : Instance} {error : TransitionError} : inst.state.isTerminal = false →
      inst.state ≠ .running → inst.transitionTo .running runner.now = .error error →
      Shifts (.idle inst) (.ended (.error (.transition error)))
  | resume {inst : Instance} : inst.state = .running → Shifts (.idle inst) (.begun inst)
  | noEntry {inst : Instance} : firstStep? inst = none →
      Shifts (.begun inst) (.ended (.error (.fault (Fault.noEntryStep.awaited))))
  | entry {inst : Instance} {key : String} : firstStep? inst = some key →
      Shifts (.begun inst) (.loop runner.settings.maxSteps.toNat inst key)
  | unknownStep {remaining : Nat} {inst : Instance} {key : String} :
      inst.definition.step? key = none →
      Shifts (.clear remaining inst key)
        (.raised inst (.evaluation (.unknownStep key inst.definition.name)))
  | exceed {inst : Instance} {key : String} {step : Step} : inst.definition.step? key = some step →
      Shifts (.clear 0 inst key)
        (.closing inst (StepError.stepLimit key runner.settings.maxSteps).message [] none)
  | unenterable {remaining : Nat} {inst : Instance} {key : String} {error : TransitionError} :
      inst.setCurrentStep (.text key) runner.now = .error error →
      Shifts (.clear (remaining + 1) inst key) (.raised inst (.transition error))
  | unevaluated {visit : Visit} {failure : Failure} :
      Condition.firstFalse? .text (.dict visit.inst.data) visit.step.conditions = .error failure →
      Shifts (.visit visit) (.raised visit.inst failure)
  | declined {visit : Visit} {condition : String} :
      Condition.firstFalse? .text (.dict visit.inst.data) visit.step.conditions =
        .ok (some condition) →
      runner.settings.policy = .fail →
      Shifts (.visit visit)
        (.failing visit.inst visit.step (.precondition visit.step.id condition))
  | skipped {visit : Visit} {condition : String} {inst : Instance} :
      Condition.firstFalse? .text (.dict visit.inst.data) visit.step.conditions =
        .ok (some condition) →
      runner.settings.policy = .skip →
      visit.inst.markSkipped (.text visit.step.id) runner.now = .ok inst →
      Shifts (.visit visit) (.processed visit.remaining inst visit.key)
  | unskippable {visit : Visit} {condition : String} {error : TransitionError} :
      Condition.firstFalse? .text (.dict visit.inst.data) visit.step.conditions =
        .ok (some condition) →
      runner.settings.policy = .skip →
      visit.inst.markSkipped (.text visit.step.id) runner.now = .error error →
      Shifts (.visit visit) (.raised visit.inst (.transition error))
  | unrendered {visit : Visit} {failure : Failure} :
      Condition.firstFalse? .text (.dict visit.inst.data) visit.step.conditions = .ok none →
      renderParameters visit.inst visit.step = .error failure →
      Shifts (.visit visit) (.raised visit.inst failure)
  | gate {visit : Visit} {config : Dict} :
      Condition.firstFalse? .text (.dict visit.inst.data) visit.step.conditions = .ok none →
      renderParameters visit.inst visit.step = .ok config → visit.step.action = none →
      Shifts (.visit visit) (.succeeded visit (.succeed []))
  | unregistered {visit : Visit} {config : Dict} {action : String} :
      Condition.firstFalse? .text (.dict visit.inst.data) visit.step.conditions = .ok none →
      renderParameters visit.inst visit.step = .ok config → visit.step.action = some action →
      runner.actions.contains action = false →
      Shifts (.visit visit) (.raised visit.inst (runner.actionNotFound action visit.step))
  | ready {visit : Visit} {config : Dict} {action : String} :
      Condition.firstFalse? .text (.dict visit.inst.data) visit.step.conditions = .ok none →
      renderParameters visit.inst visit.step = .ok config → visit.step.action = some action →
      runner.actions.contains action = true →
      Shifts (.visit visit)
        (.making ⟨visit, action, config, visit.step.retryAttempts.toNat + runner.patience, 1⟩)
  | exhausted {trial : Trial} {error : StepError} : trial.fuel = 0 ∨ error.canRetry = false →
      Shifts (.reported trial error) (.failing trial.visit.inst trial.visit.step error)
  | retry {trial : Trial} {error : StepError} {fuel : Nat} : trial.fuel = fuel + 1 →
      error.canRetry = true → Shifts (.reported trial error) (.waiting { trial with fuel })
  | unwaited {trial : Trial} : runner.settings.retryBackoff = false →
      Shifts (.waiting trial) (.attempt trial.again)
  | merged {visit : Visit} {result : ActionResult} {merged inst : Instance} :
      visit.inst.mergeData result.data runner.now = .ok merged →
      merged.markCompleted (.text visit.step.id) runner.now = .ok inst →
      Shifts (.succeeded visit result) (.recorded { visit with inst } result)
  | unmerged {visit : Visit} {result : ActionResult} {error : TransitionError} :
      (visit.inst.mergeData result.data runner.now).bind
        (·.markCompleted (.text visit.step.id) runner.now) = .error error →
      Shifts (.succeeded visit result) (.raised visit.inst (.transition error))
  | unchosen {remaining : Nat} {inst : Instance} {key : String} {failure : Failure} :
      chosenStep inst key = .error failure →
      Shifts (.processed remaining inst key) (.raised inst failure)
  | last {remaining : Nat} {inst : Instance} {key : String} : chosenStep inst key = .ok none →
      Shifts (.processed remaining inst key) (.finishing inst)
  | chosen {remaining : Nat} {inst : Instance} {key next : String} :
      chosenStep inst key = .ok (some next) →
      Shifts (.processed remaining inst key) (.leaving remaining inst next)
  | unleavable {remaining : Nat} {inst : Instance} {key : String} {error : TransitionError} :
      inst.setCurrentStep (.text key) runner.now = .error error →
      Shifts (.leaving remaining inst key) (.raised inst (.transition error))
  | uncompletable {inst : Instance} {error : TransitionError} :
      inst.transitionTo .completed runner.now = .error error →
      Shifts (.finishing inst) (.raised inst (.transition error))
  | marked {inst failed : Instance} {step : Step} {error : StepError} :
      inst.markFailed step.id error.message runner.now = .ok failed →
      Shifts (.failing inst step error) (.undoing failed error (compensationOrder failed step))
  | unmarkable {inst : Instance} {step : Step} {error : StepError} {refused : TransitionError} :
      inst.markFailed step.id error.message runner.now = .error refused →
      Shifts (.failing inst step error) (.raised inst (.transition refused))
  | undone {inst : Instance} {error : StepError} :
      Shifts (.undoing inst error []) (.closing inst error.message error.context none)
  | irreversible {inst : Instance} {error : StepError} {step : Step} {pending : List Step} :
      step.compensation = none →
      Shifts (.undoing inst error (step :: pending)) (.undoing inst error pending)
  | undoUnrendered {inst : Instance} {error : StepError} {step : Step} {pending : List Step}
      {action : String} {failure : Failure} : step.compensation = some action →
      renderParameters inst step = .error failure →
      Shifts (.undoing inst error (step :: pending)) (.raised inst failure)
  | undoUnregistered {inst : Instance} {error : StepError} {step : Step} {pending : List Step}
      {action : String} {config : Dict} : step.compensation = some action →
      renderParameters inst step = .ok config → runner.actions.contains action = false →
      Shifts (.undoing inst error (step :: pending)) (.undoing inst error pending)
  | unfailable {inst : Instance} {message : String} {context : Dict} {error : TransitionError} :
      inst.fail (.text message) runner.now = .error error →
      Shifts (.closing inst message context none) (.raised inst (.transition error))
  | unabortable {inst : Instance} {message : String} {context : Dict} {failure : Failure}
      {error : TransitionError} : inst.fail (.text message) runner.now = .error error →
      Shifts (.closing inst message context (some failure)) (.ended (.error (.transition error)))
  | settled {inst : Instance} {failure : Failure} : inst.state.isTerminal = true →
      Shifts (.raised inst failure) (.ended (.error failure))
  | aborted {inst : Instance} {failure : Failure} : inst.state.isTerminal = false →
      Shifts (.raised inst failure) (.closing inst failure.abortMessage [] (some failure))
  | stopped {stored : Instance} : Shifts (.stopped stored) (.ended (.ok stored))

variable {runner}

/-- Actions and the clock change nothing about the instance that a run works on. -/
theorem Acts.worked?_eq {phase after : Phase} {request : Request} {answer : request.Answer}
    (acts : Acts runner phase request answer after) :
    ∃ inst, phase.worked? = some inst ∧ after.worked? = some inst := by
  cases acts with
  | make => exact ⟨_, rfl, worked?_afterMake _ _⟩
  | permit => exact ⟨_, rfl, worked?_afterPermit _ _⟩
  | perform => exact ⟨_, rfl, rfl⟩
  | draw => exact ⟨_, rfl, worked?_afterDraw _ _ _⟩
  | rest => exact ⟨_, rfl, worked?_afterRest _ _⟩
  | unmake => exact ⟨_, rfl, worked?_afterUnmake _ _ _ _ _⟩
  | undo => exact ⟨_, rfl, rfl⟩

/-- An event ends a run or leaves the instance it works on. -/
theorem Emits.worked?_eq {phase after : Phase} {event : Event}
    (emits : Emits runner phase event after) :
    (∃ result, after = .ended result) ∨
      ∃ inst, phase.worked? = some inst ∧ after.worked? = some inst := by
  cases emits with
  | stepFailed | stepCompleted => exact .inr ⟨_, rfl, rfl⟩
  | completed | failed | aborted => exact .inl ⟨_, rfl⟩

/-- A run looks for the instance it works on. -/
theorem Looks.worked?_eq {phase onward : Phase} {inst : Instance}
    (looks : Looks phase inst onward) :
    phase.worked? = some inst ∧ onward.worked? = some inst := by
  cases looks with
  | before => exact ⟨rfl, rfl⟩
  | after => exact ⟨rfl, worked?_afterTrial _ _⟩

/-- What a run saves is the instance it works on, or the one it was called for. -/
theorem Saves.id_eq {phase kept : Phase} {saved : Instance} {lost : Failure → Phase}
    (saves : Saves runner phase saved kept lost) :
    ∃ inst, (phase = .idle inst ∨ phase.worked? = some inst) ∧ saved.id = inst.id := by
  cases saves with
  | start _ _ starts =>
      rcases Instance.transitionTo_eq_ok.mp starts with ⟨_, rfl⟩
      exact ⟨_, .inl rfl, rfl⟩
  | enter _ moves =>
      rcases Instance.setCurrentStep_eq_ok.mp moves with ⟨_, rfl⟩
      exact ⟨_, .inr rfl, rfl⟩
  | leave moves =>
      rcases Instance.setCurrentStep_eq_ok.mp moves with ⟨_, rfl⟩
      exact ⟨_, .inr rfl, rfl⟩
  | complete completes =>
      rcases Instance.transitionTo_eq_ok.mp completes with ⟨_, rfl⟩
      exact ⟨_, .inr rfl, rfl⟩
  | fail fails =>
      rcases Instance.fail_eq_ok.mp fails with ⟨_, rfl⟩
      exact ⟨_, .inr rfl, rfl⟩
  | abort fails =>
      rcases Instance.fail_eq_ok.mp fails with ⟨_, rfl⟩
      exact ⟨_, .inr rfl, rfl⟩

/-- While a run goes on by itself, its instance keeps its id, its definition and its state. -/
theorem Shifts.worked?_eq {phase after : Phase} (shifts : Shifts runner phase after) :
    (∃ inst, phase = .idle inst) ∨ (∃ result, after = .ended result) ∨
      ∃ inst inst', phase.worked? = some inst ∧ after.worked? = some inst' ∧
        inst'.id = inst.id ∧ inst'.definition = inst.definition ∧ inst'.state = inst.state := by
  cases shifts with
  | unresumable | unstartable | resume => exact .inl ⟨_, rfl⟩
  | noEntry | unabortable | settled | stopped => exact .inr (.inl ⟨_, rfl⟩)
  | merged merges marks =>
      rcases Instance.mergeData_eq_ok.mp merges with ⟨_, rfl⟩
      rcases Instance.markCompleted_eq_ok.mp marks with ⟨_, rfl⟩
      exact .inr (.inr ⟨_, _, rfl, rfl, rfl, rfl, rfl⟩)
  | skipped _ _ skips =>
      rcases Instance.markSkipped_eq_ok.mp skips with ⟨_, rfl⟩
      exact .inr (.inr ⟨_, _, rfl, rfl, rfl, rfl, rfl⟩)
  | marked marks =>
      rcases Instance.markFailed_eq_ok.mp marks with ⟨_, rfl⟩
      exact .inr (.inr ⟨_, _, rfl, rfl, rfl, rfl, rfl⟩)
  | _ => exact .inr (.inr ⟨_, _, rfl, rfl, rfl, rfl, rfl⟩)

end Phase

/-- What a run does. -/
def Runner.protocol (runner : Runner) : Protocol Phase (Except Failure Instance) where
  Moves := Phase.Moves runner
  Shifts := Phase.Shifts runner
  Ends phase result := phase = .ended result

end Workflow
