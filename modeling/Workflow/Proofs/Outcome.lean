import Workflow.Proofs.Governed
import Workflow.Proofs.Reading
import Workflow.Proofs.Records
import Workflow.Run.Engine

/-!
# How runs end

In the world of a store that does not fail, and with actions that may do anything to it, a run
ends in one of two ways.  It returns the instance that is stored under its id, which is completed,
failed, cancelled or paused; or it fails, and the stored instance is failed and says why.
-/

namespace Workflow

/-- An instance that a run works on. -/
structure Instance.Underway (inst : Instance) (id : String) : Prop where
  id_eq : inst.id = id
  running : inst.state = .running
  nonempty : inst.definition.steps ≠ []

namespace Phase

variable {σ : Type}

/-- What holds of the instance with an id in the phases of its run: it runs until it is saved for
the last time, and from then on the store holds what the run is going to give. -/
def Accounts (records : Records σ) (id : String) (state : σ) : Phase → Prop
  | .idle inst => inst.id = id ∧ inst.state.isActive = true ∧ inst.definition.steps ≠ []
  | .completed inst => records.record? state id = some inst ∧ inst.state = .completed
  | .closed inst message _ _ =>
    records.record? state id = some inst ∧ inst.state = .failed ∧ inst.errorMessage = .text message
  | .stopped stored => records.record? state id = some stored ∧ stored.state.interrupts = true
  | .ended (.ok inst) =>
    records.record? state id = some inst ∧
      inst.state ∈ [State.completed, .failed, .cancelled, .paused]
  | .ended (.error _) =>
    ∃ stored, records.record? state id = some stored ∧ stored.state = .failed ∧
      stored.errorMessage ≠ .null
  | phase => ∀ inst, phase.worked? = some inst → inst.Underway id

end Phase

variable {σ : Type} {records : Records σ} {actors : Actors σ} {runner : Runner} {id : String}

theorem accounts_of_worked {phase : Phase} {inst : Instance} {state : σ}
    (worked : phase.worked? = some inst) (underway : inst.Underway id) :
    phase.Accounts records id state := by
  cases phase <;> simp_all [Phase.Accounts, Phase.worked?]

theorem underway_of_worked {phase : Phase} {inst : Instance} {state : σ}
    (accounts : phase.Accounts records id state) (worked : phase.worked? = some inst) :
    inst.Underway id := by
  cases phase <;> simp_all [Phase.Accounts, Phase.worked?]

theorem firstStep?_ne_none {inst : Instance} (nonempty : inst.definition.steps ≠ []) :
    firstStep? inst ≠ none := by
  rcases Definition.exists_entry nonempty with ⟨entry, _, enters⟩
  simp only [firstStep?]
  rw [enters]
  split
  · split <;> simp
  · simp

theorem accounts_keep {phase kept : Phase} {saved : Instance} {lost : Failure → Phase} {state : σ}
    (accounts : phase.Accounts records id state) (saves : phase.Saves runner saved kept lost) :
    kept.Accounts records id (records.save state saved) := by
  cases saves with
  | start active _ starts =>
      rcases Instance.transitionTo_eq_ok.mp starts with ⟨_, rfl⟩
      exact accounts_of_worked rfl ⟨accounts.1, rfl, accounts.2.2⟩
  | enter _ moves =>
      rcases Instance.setCurrentStep_eq_ok.mp moves with ⟨_, rfl⟩
      have underway := accounts _ rfl
      exact accounts_of_worked rfl ⟨underway.id_eq, underway.running, underway.nonempty⟩
  | leave moves =>
      rcases Instance.setCurrentStep_eq_ok.mp moves with ⟨_, rfl⟩
      have underway := accounts _ rfl
      exact accounts_of_worked rfl ⟨underway.id_eq, underway.running, underway.nonempty⟩
  | complete completes =>
      rcases Instance.transitionTo_eq_ok.mp completes with ⟨_, rfl⟩
      rcases accounts _ rfl with ⟨rfl, _, _⟩
      exact ⟨records.record?_save_self _ _, rfl⟩
  | fail fails =>
      rcases Instance.fail_eq_ok.mp fails with ⟨_, rfl⟩
      rcases accounts _ rfl with ⟨rfl, _, _⟩
      exact ⟨records.record?_save_self _ _, rfl, rfl⟩
  | abort fails =>
      rcases Instance.fail_eq_ok.mp fails with ⟨_, rfl⟩
      rcases accounts _ rfl with ⟨rfl, _, _⟩
      exact ⟨records.record?_save_self _ _, rfl, rfl⟩

theorem accounts_look {phase onward : Phase} {inst : Instance} {state : σ}
    (accounts : phase.Accounts records id state) (looks : phase.Looks inst onward) :
    (Phase.afterLook inst onward (.ofLoaded (records.load state inst.id))).Accounts records id
      state := by
  rcases looks.worked?_eq with ⟨before, worked⟩
  have underway : inst.Underway id := underway_of_worked accounts before
  have onwards : onward.Accounts records id state := accounts_of_worked worked underway
  rcases underway with ⟨rfl, _, _⟩
  simp only [Records.load]
  cases held : records.record? state inst.id with
  | none => exact onwards
  | some stored =>
      simp only [Interruption.ofLoaded]
      cases interrupts : stored.state.interrupts with
      | true => exact ⟨held, interrupts⟩
      | false => exact onwards

theorem accounts_shift {phase after : Phase} {state : σ}
    (accounts : phase.Accounts records id state) (shifts : phase.Shifts runner after) :
    after.Accounts records id state := by
  have onward := shifts.worked?_eq
  cases shifts with
  | unresumable terminal =>
      rcases accounts with ⟨_, active, _⟩
      simp [State.isTerminal, active] at terminal
  | @unstartable inst error active running refused =>
      have starts : inst.state.canMoveTo .running = true := by
        revert active running
        cases inst.state <;> decide
      rw [Instance.transitionTo_eq_ok.mpr ⟨starts, rfl⟩] at refused
      cases refused
  | resume running => exact accounts_of_worked rfl ⟨accounts.1, running, accounts.2.2⟩
  | noEntry enters => exact absurd enters (firstStep?_ne_none (accounts _ rfl).nonempty)
  | unabortable refused =>
      have fails : State.canMoveTo .running .failed = true := by decide
      rw [← (accounts _ rfl).running] at fails
      rw [Instance.fail_eq_ok.mpr ⟨fails, rfl⟩] at refused
      cases refused
  | settled terminal =>
      have running := (accounts _ rfl).running
      simp [State.isTerminal, State.isActive, running] at terminal
  | stopped =>
      cases State.of_interrupts accounts.2 with
      | inl cancelled => exact ⟨accounts.1, by simp [cancelled]⟩
      | inr paused => exact ⟨accounts.1, by simp [paused]⟩
  -- from every other phase the run goes on with its instance
  | _ =>
      rcases onward with ⟨_, begun⟩ | ⟨_, ended⟩ | ⟨inst, changed, was, is, sameId, same, sameState⟩
      · cases begun
      · cases ended
      · have underway := underway_of_worked accounts was
        apply accounts_of_worked is
        constructor
        · exact sameId.trans underway.id_eq
        · exact sameState.trans underway.running
        · rw [same]
          exact underway.nonempty

theorem accounts_emit {phase after : Phase} {event : Event} {state : σ}
    (accounts : phase.Accounts records id state) (emits : phase.Emits runner event after) :
    after.Accounts records id state := by
  cases emits with
  | stepFailed => exact accounts
  | stepCompleted => exact accounts
  | completed => exact ⟨accounts.1, by simp [accounts.2]⟩
  | failed => exact ⟨accounts.1, by simp [accounts.2.1]⟩
  | aborted => exact ⟨_, accounts.1, accounts.2.1, by simp [accounts.2.2]⟩

/-- A run accounts for its instance in every world of a store that does not fail. -/
theorem accounts_invariant :
    runner.protocol.Invariant (records.world actors)
      fun _ phase state => phase.Accounts records id state where
  shift accounts shifts := accounts_shift accounts shifts
  move := by
    intro exchanges phase state request answer after final accounts moves answered
    cases moves with
    | log =>
        cases answered
        exact accounts
    | keep saves =>
        rcases answered with ⟨_, rfl⟩
        exact accounts_keep accounts saves
    | lose saves =>
        rcases answered with ⟨lost, _⟩
        cases lost
    | look looks =>
        rcases answered with ⟨rfl, rfl⟩
        exact accounts_look accounts looks
    | emit emits =>
        cases answered
        exact accounts_emit accounts emits
    | act acts =>
        rcases acts.worked?_eq with ⟨inst, before, worked⟩
        exact accounts_of_worked worked (underway_of_worked accounts before)

/-- A run in the world of a store in memory returns the stored instance, completed, failed,
cancelled or paused, or it fails and leaves the stored instance failed with a message. -/
theorem run_outcome (runner : Runner) (actors : Actors MemoryStore) {inst : Instance}
    (read : inst.definition.IsRead) (active : inst.state.isActive = true)
    {store final : MemoryStore} {exchanges : List Request.Answered}
    {outcome : Except Failure Instance}
    (ended : Proc.Ends (MemoryStore.records.world actors) (runner.run inst) store exchanges outcome
      final) :
    (∃ result, outcome = .ok result ∧ final.load inst.id = .ok result ∧
        result.state ∈ [State.completed, .failed, .cancelled, .paused]) ∨
      ∃ failure stored, outcome = .error failure ∧ final.load inst.id = .ok stored ∧
        stored.state = .failed ∧ stored.errorMessage ≠ .null := by
  have start : (Phase.idle inst).Accounts MemoryStore.records inst.id store :=
    ⟨rfl, active, read.wellFormed.steps_ne_nil⟩
  rcases accounts_invariant.at_end (run_governed inst) start ended with ⟨_, accounts, rfl⟩
  cases outcome with
  | ok result =>
      rcases accounts with ⟨held, among⟩
      exact .inl ⟨result, rfl, (Records.load_eq_ok _).mpr held, among⟩
  | error failure =>
      rcases accounts with ⟨stored, held, failed, message⟩
      exact .inr ⟨failure, stored, rfl, (Records.load_eq_ok _).mpr held, failed, message⟩

/-! ## An action that cancels its own instance -/

/-- A runner of the actions of `Definition.reversible`. -/
def Runner.plain : Runner where
  settings := ⟨.skip, 100, false, .zero, .zero⟩
  actions := ["act", "undo"]
  now := default
  patience := 0

/-- Actions that succeed, but have an engine cancel the instance that they are performed for. -/
def Deeds.cancelling (runner : Runner) : Deeds MemoryStore where
  perform invocation store :=
    let cancelled := (runner.cancel invocation.context.workflowId (.text "")).course
      (MemoryStore.records.serve { perform := fun _ store => (.ok (.other .null), store) }) store
    (.ok (.result (.succeed [])), cancelled.2.2)

theorem run_outcome_cancelled :
    let inst := Instance.fresh "w" .reversible [] default
    let course := (Runner.plain.run inst).course
      (MemoryStore.records.serve (.cancelling .plain)) .empty
    inst.definition.IsRead ∧ inst.state.isActive = true ∧
      Proc.Ends (MemoryStore.records.world (Deeds.cancelling .plain).actors) (Runner.plain.run inst)
        .empty course.1 course.2.1 course.2.2 ∧
      course.2.1.toOption.map (·.state) = some .cancelled ∧
      ((∃ result, course.2.1 = .ok result ∧ course.2.2.load "w" = .ok result ∧
          result.state ∈ [State.completed, .failed, .cancelled, .paused]) ∨
        ∃ failure stored, course.2.1 = .error failure ∧ course.2.2.load "w" = .ok stored ∧
          stored.state = .failed ∧ stored.errorMessage ≠ .null) := by
  have ended := Proc.ends_course (MemoryStore.records.world_serve (.cancelling .plain))
    (Runner.plain.run (.fresh "w" .reversible [] default)) .empty
  exact ⟨Definition.isRead_reversible, rfl, ended, by decide +kernel,
    run_outcome .plain _ Definition.isRead_reversible rfl ended⟩

end Workflow
