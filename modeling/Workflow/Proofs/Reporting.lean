import Workflow.Proofs.Attempts
import Workflow.Proofs.Stopping

/-!
# The events of a run

A run tells of each attempt that fails, of each step that it completes, and of its own end.  Where
its actions leave the store alone, what it tells is what it does.  It goes through executions of
steps.  Each of them tells of the attempts that failed, numbered from one on, and of its result if it
had one; and the steps that have a result are the ones that the run adds to those completed.  After
the executions there is one more event: how the instance ended that is stored now.

There is one way for a run to tell nothing.  It takes an instance that is running as it is, without
saving it first; if the store has the instance as cancelled or paused, the run stops before it has
done anything.
-/

namespace Workflow

open Proc

/-! ## Signs -/

/-- What shows of a run: what is asked of an action for an attempt, and the events. -/
inductive Sign where
  | use (exchange : Request.Answered)
  | event (event : Event)

/-- What shows of an exchange. -/
def Request.Answered.sign? (exchange : Request.Answered) : Option Sign :=
  match exchange.request with
  | .emit event => some (.event event)
  | request => if request.isAttempt then some (.use exchange) else none

/-- What shows of some exchanges. -/
def signs (exchanges : List Request.Answered) : List Sign :=
  exchanges.filterMap (·.sign?)

/-- What shows of an attempt. -/
def Conduct.signs (conduct : Conduct) (invocation : Invocation) : List Sign :=
  (conduct.exchanges invocation).map .use

/-- One execution of a step, by what it shows. -/
inductive Execution where
  /-- The step has no action, and is completed. -/
  | gate (step : Step)
  /-- The action of the step is attempted: in vain at first, and then perhaps with success. -/
  | acted (step : Step) (action : String) (context : Context)
      (failures : List (Conduct × StepError)) (success : Option (Conduct × ActionResult))

namespace Execution

/-- The step that an execution completes, with the data of the result. -/
def completion? : Execution → Option (String × Dict)
  | .gate step => some (step.id, [])
  | .acted step _ _ _ success => success.map fun made => (step.id, made.2.data)

/-- What shows of the attempts that fail: each of them, and that it did, with its number. -/
def failureSigns (runner : Runner) (inst : Instance) (step : Step) (action : String)
    (context : Context) (failures : List (Conduct × StepError)) : List Sign :=
  (failures.zipIdx 1).flatMap fun (failure, number) =>
    failure.1.signs ⟨.attempt number, action, context⟩ ++
      [.event (runner.event inst (.stepFailed step.id failure.2.message number))]

/-- What shows of an execution. -/
def signs (runner : Runner) (inst : Instance) : Execution → List Sign
  | .gate step => [.event (runner.event inst (.stepCompleted step.id []))]
  | .acted step action context failures success =>
    failureSigns runner inst step action context failures ++
      success.toList.flatMap fun made =>
        made.1.signs ⟨.attempt (failures.length + 1), action, context⟩ ++
          [.event (runner.event inst (.stepCompleted step.id made.2.data))]

/-- Attempts fail with the given failures, one after the other. -/
def Failing (step : Step) (failures : List (Conduct × StepError)) : Prop :=
  ∀ failure ∈ failures.zipIdx 1, failure.1.1.outcome step failure.2 = .error failure.1.2

/-- An execution is one of a step of a definition, and its attempts come out as it says. -/
inductive Sound (definition : Definition) : Execution → Prop where
  | gate {step : Step} : definition.step? step.id = some step → step.action = none →
      Sound definition (.gate step)
  | acted {step : Step} {action : String} {context : Context}
      {failures : List (Conduct × StepError)} {success : Option (Conduct × ActionResult)} :
      definition.step? step.id = some step → step.action = some action →
      context.stepId = step.id → Failing step failures →
      (∀ made ∈ success, made.1.outcome step (failures.length + 1) = .ok made.2) →
      Sound definition (.acted step action context failures success)

end Execution

/-- The steps that executions complete. -/
def completedBy (executions : List Execution) : List Value :=
  executions.filterMap (·.completion?.map fun made => .text made.1)

/-- An event is about the end of an instance. -/
inductive Instance.ToldBy (stored : Instance) : EventBody → Prop where
  | completed : stored.state = .completed → ToldBy stored (.completed stored.data)
  | failed {message : String} {context : Dict} : stored.state = .failed →
      stored.errorMessage = .text message → ToldBy stored (.failed message context)

/-- What a run of an instance shows that leads from one state of the store to another. -/
inductive Runner.Reports {σ : Type} (runner : Runner) (records : Records σ) (inst : Instance)
    (start final : σ) (shown : List Sign) (outcome : Except Failure Instance) : Prop where
  /-- The run took the instance for running, but it was stored as cancelled or paused. -/
  | stopped {stored : Instance} : inst.state = .running →
      records.record? start inst.id = some stored → stored.state.interrupts = true →
      shown = [] → final = start → outcome = .ok stored →
      Reports runner records inst start final shown outcome
  | told {executions : List Execution} {stored : Instance} {closing : EventBody} :
      shown = executions.flatMap (·.signs runner inst) ++ [.event (runner.event inst closing)] →
      (∀ execution ∈ executions, execution.Sound inst.definition) →
      records.record? final inst.id = some stored →
      stored.completed = inst.completed ++ completedBy executions → stored.ToldBy closing →
      Reports runner records inst start final shown outcome

/-- Actions and waits leave the store as it is. -/
structure Actors.Still {σ : Type} (actors : Actors σ) : Prop where
  make : ∀ {invocation state answer after}, actors.make invocation state answer after →
    after = state
  permits : ∀ {invocation state answer after}, actors.permits invocation state answer after →
    after = state
  perform : ∀ {invocation state answer after}, actors.perform invocation state answer after →
    after = state
  sleep : ∀ {seconds state answer after}, actors.sleep seconds state answer after → after = state

/-! ## What shows in each phase -/

/-- The attempts of a trial before one failed, and this is what shows of them. -/
def Trial.FailedBefore (runner : Runner) (inst : Instance) (trial : Trial) (attempt : Nat)
    (pending : List Sign) : Prop :=
  trial.visit.step.action = some trial.action ∧
    ∃ failures, failures.length + 1 = attempt ∧ Execution.Failing trial.visit.step failures ∧
      pending = Execution.failureSigns runner inst trial.visit.step trial.action
        (trial.context runner) failures

/-- An attempt was made after others had failed, and this is what shows of them all. -/
def Trial.Made (runner : Runner) (inst : Instance) (trial : Trial)
    (outcome : Except StepError ActionResult) (pending : List Sign) : Prop :=
  ∃ (earlier : List Sign) (conduct : Conduct),
    trial.FailedBefore runner inst trial.attempt earlier ∧
    conduct.outcome trial.visit.step trial.attempt = outcome ∧
    pending = earlier ++ conduct.signs (trial.invocation runner)

/-- An execution of a step gave a result; what shows of it lacks the event that is due. -/
def Visit.Gave (runner : Runner) (inst : Instance) (visit : Visit) (result : ActionResult)
    (pending : List Sign) : Prop :=
  ∃ execution : Execution, execution.Sound inst.definition ∧
    execution.completion? = some (visit.step.id, result.data) ∧
    execution.signs runner inst =
      pending ++ [.event (runner.event inst (.stepCompleted visit.step.id result.data))]

namespace Phase

/-- The steps completed in the instance that no event has told of yet. -/
def untold : Phase → List Value
  | .recorded entered _ => [.text entered.step.id]
  | _ => []

/-- The instance of a run that has neither stopped nor ended. -/
def held? : Phase → Option Instance
  | .idle inst | .completed inst | .closed inst _ _ _ => some inst
  | phase => phase.worked?

/-- What shows of the execution that is under way. -/
def Pending (runner : Runner) (inst : Instance) (pending : List Sign) : Phase → Prop
  | .making trial => trial.attempt = 1 ∧ trial.FailedBefore runner inst trial.attempt pending
  | .attempt trial => trial.FailedBefore runner inst trial.attempt pending
  | .permitted trial => ∃ earlier, trial.FailedBefore runner inst trial.attempt earlier ∧
      pending = earlier ++ [.use ⟨.permits (trial.invocation runner), .ok true⟩]
  | .tried trial outcome => trial.Made runner inst outcome pending
  | .broken trial error => trial.Made runner inst (.error error) pending
  | .reported trial _ | .waiting trial | .resting trial _ =>
    trial.FailedBefore runner inst (trial.attempt + 1) pending
  | .succeeded entered result | .recorded entered result =>
    entered.Gave runner inst result pending
  | _ => pending = []

/-- What shows of a run in a phase: whole executions, and the one that is under way. -/
structure Shows (runner : Runner) (inst : Instance) (shown : List Sign)
    (executions : List Execution) (pending : List Sign) (phase : Phase) : Prop where
  shown_eq : shown = executions.flatMap (·.signs runner inst) ++ pending
  sound : ∀ execution ∈ executions, execution.Sound inst.definition
  pending : phase.Pending runner inst pending
  held : ∀ other, phase.held? = some other → other.id = inst.id ∧
    other.definition = inst.definition ∧
    other.completed = inst.completed ++ completedBy executions ++ phase.untold

/-- What the store has of the instance: it is running once a run has saved it, and while the run
has not, nothing was changed or shown. -/
def Fresh {σ : Type} (records : Records σ) (inst : Instance) (start : σ) (shown : List Sign)
    (state : σ) : Phase → Prop
  | .idle other => other = inst ∧ state = start ∧ shown = []
  | .begun _ | .loop _ _ _ | .clear _ _ _ => records.Quiet inst.id state ∨
      inst.state = .running ∧ state = start ∧ shown = []
  | .stopped _ => inst.state = .running ∧ state = start ∧ shown = []
  | .finishing _ | .completed _ | .failing _ _ _ | .undoing _ _ _ | .undo _ _ _ _
  | .closing _ _ _ _ | .closed _ _ _ _ | .raised _ _ | .ended _ => True
  | _ => records.Quiet inst.id state

/-- What a run has shown in a phase, and what the store has of its instance. -/
structure Tells {σ : Type} (runner : Runner) (records : Records σ) (actors : Actors σ)
    (inst : Instance) (start : σ) (shown : List Sign) (state : σ) (phase : Phase) : Prop
    extends phase.Stands records actors inst.id state where
  accounts : phase.Accounts records inst.id state
  fresh : phase.Fresh records inst start shown state
  shows : phase.held?.isSome = true → ∃ executions pending,
    phase.Shows runner inst shown executions pending
  reports : ∀ outcome, phase = .ended outcome →
    runner.Reports records inst start state shown outcome

end Phase

/-! ## Attempts -/

section Attempts

variable {runner : Runner} {inst : Instance} {trial : Trial} {pending : List Sign}

theorem Execution.failureSigns_concat (step : Step) (action : String) (context : Context)
    (failures : List (Conduct × StepError)) (conduct : Conduct) (error : StepError) :
    failureSigns runner inst step action context (failures ++ [(conduct, error)]) =
      failureSigns runner inst step action context failures ++
        (conduct.signs ⟨.attempt (failures.length + 1), action, context⟩ ++
          [.event (runner.event inst
            (.stepFailed step.id error.message (failures.length + 1 : Nat)))]) := by
  simp [failureSigns, List.zipIdx_append, Nat.add_comm]

theorem Execution.Failing.concat {step : Step} {failures : List (Conduct × StepError)}
    {conduct : Conduct} {error : StepError} (failing : Failing step failures)
    (fails : conduct.outcome step (failures.length + 1) = .error error) :
    Failing step (failures ++ [(conduct, error)]) := by
  intro failure member
  rw [List.zipIdx_append, List.mem_append] at member
  rcases member with earlier | last
  · exact failing failure earlier
  · cases List.mem_singleton.mp last
    rw [Nat.add_comm]
    exact fails

/-- After it was told that an attempt failed, it is one of those that failed. -/
theorem Trial.Made.told {error : StepError} (made : trial.Made runner inst (.error error) pending) :
    trial.FailedBefore runner inst (trial.attempt + 1)
      (pending ++ [.event (runner.event inst
        (.stepFailed trial.visit.step.id error.message trial.attempt))]) := by
  rcases made with ⟨_, conduct, ⟨acts, failures, counted, failing, rfl⟩, fails, rfl⟩
  rw [← counted] at fails ⊢
  refine ⟨acts, failures ++ [(conduct, error)], by simp, failing.concat fails, ?_⟩
  rw [Execution.failureSigns_concat, Trial.invocation, ← counted]
  simp

/-- No attempt was made before the first one. -/
theorem Trial.FailedBefore.first (failed : trial.FailedBefore runner inst 1 pending) : pending = [] := by
  rcases failed with ⟨_, failures, counted, _, rfl⟩
  cases failures with
  | nil => rfl
  | cons failure rest => simp at counted

/-- After attempts that failed, an execution of the step has shown them and no more. -/
theorem Trial.FailedBefore.execution {attempt : Nat}
    (failed : trial.FailedBefore runner inst attempt pending)
    (declared : inst.definition.step? trial.visit.step.id = some trial.visit.step) :
    ∃ execution : Execution, execution.Sound inst.definition ∧ execution.completion? = none ∧
      execution.signs runner inst = pending := by
  rcases failed with ⟨acts, failures, counted, failing, rfl⟩
  refine ⟨.acted trial.visit.step trial.action (trial.context runner) failures none,
    .acted declared acts rfl failing (by simp), rfl, ?_⟩
  simp [Execution.signs]

end Attempts

/-! ## Steps of a run -/

section Steps

variable {σ : Type} {runner : Runner} {records : Records σ} {actors : Actors σ} {inst : Instance}
variable {start state final : σ} {phase after : Phase} {shown : List Sign}

/-- Actions and waits that leave the store as it is. -/
theorem Actors.Still.acts {request : Request} {answer : request.Answer} (still : actors.Still)
    (acts : phase.Acts runner request answer after)
    (answered : records.world actors request state answer final) : final = state := by
  cases acts with
  | make | unmake => exact still.make answered
  | permit => exact still.permits answered
  | perform | undo => exact still.perform answered
  | draw => exact answered
  | rest => exact still.sleep answered

namespace Phase.Shows

variable {executions : List Execution} {pending pending' shown' : List Sign}

/-- What shows stays as it is when a run goes on with its instance. -/
theorem onward (shows : phase.Shows runner inst shown executions pending)
    (pends : after.Pending runner inst pending) (same : after.untold = phase.untold)
    (held : ∀ other, after.held? = some other → ∃ before, phase.held? = some before ∧
      other.id = before.id ∧ other.definition = before.definition ∧
      other.completed = before.completed) :
    after.Shows runner inst shown executions pending := by
  refine ⟨shows.shown_eq, shows.sound, pends, fun other holds => ?_⟩
  rcases held other holds with ⟨before, held, sameId, sameDefinition, sameCompleted⟩
  rcases shows.held before held with ⟨id, definition, completed⟩
  rw [same]
  exact ⟨sameId.trans id, sameDefinition.trans definition, sameCompleted.trans completed⟩

/-- More shows of the execution that is under way. -/
theorem more (shows : phase.Shows runner inst shown executions pending) {further : List Sign}
    (pends : after.Pending runner inst (pending ++ further)) (same : after.untold = phase.untold)
    (held : after.held? = phase.held?) :
    after.Shows runner inst (shown ++ further) executions (pending ++ further) := by
  refine ⟨?_, shows.sound, pends, fun other holds => ?_⟩
  · rw [shows.shown_eq, List.append_assoc]
  · rw [same]
    exact shows.held other (held ▸ holds)

/-- An execution is over, with or without a result. -/
theorem close (shows : phase.Shows runner inst shown executions pending) (further : List Sign)
    {execution : Execution} (sound : execution.Sound inst.definition)
    (showing : execution.signs runner inst = pending ++ further)
    (same : phase.untold = completedBy [execution]) (told : after.untold = [])
    (pends : after.Pending runner inst [])
    (held : after.held? = phase.held?) :
    after.Shows runner inst (shown ++ further) (executions ++ [execution]) [] := by
  refine ⟨?_, ?_, pends, fun other holds => ?_⟩
  · rw [shows.shown_eq]
    simp [showing]
  · exact List.forall_mem_append.mpr ⟨shows.sound, List.forall_mem_singleton.mpr sound⟩
  · rcases shows.held other (held ▸ holds) with ⟨id, definition, completed⟩
    refine ⟨id, definition, ?_⟩
    rw [completed, same, told]
    simp [completedBy]

end Phase.Shows

namespace Phase.Tells

/-- The step that a run is at is one of the definition. -/
theorem declared (tells : phase.Tells runner records actors inst start shown state)
    (keyed : inst.definition.Keyed) {visit : Visit} (entered : phase.entered? = some visit)
    (held : phase.held? = some visit.inst) :
    inst.definition.step? visit.step.id = some visit.step := by
  rcases tells.shows (by rw [held]; rfl) with ⟨executions, pending, shows⟩
  have found := (tells.step_eq visit entered).1
  rw [(shows.held _ held).2.1] at found
  rw [keyed.id_of_step? found]
  exact found

end Phase.Tells

theorem Phase.Accounts.move {request : Request} {answer : request.Answer}
    (accounts : phase.Accounts records inst.id state) (moves : phase.Moves runner request answer after)
    (answered : records.world actors request state answer final) :
    after.Accounts records inst.id final :=
  @Protocol.Invariant.move _ _ _ _ _ _ accounts_invariant [] _ _ _ _ _ _ accounts moves answered

end Steps

theorem Repertoire.still {σ : Type} (repertoire : Repertoire) :
    (repertoire.actors : Actors σ).Still :=
  ⟨And.right, And.right, And.right, And.right⟩

end Workflow
