import Workflow.Proofs.Failures
import Workflow.Proofs.Growth

/-!
# Runs are not refused

A call of an engine is refused when its definition is not one, when an instance is in no state for
it, or when there is no such instance.  A run that has begun is not refused any more, whatever goes
wrong in it, as long as only the run changes the store; and it writes to no other record than that
of its own instance.
-/

namespace Workflow

open Proc

/-- Whether a failure refuses a call: the definition is invalid, the state does not allow it, or
there is no such instance. -/
def Failure.refuses : Failure → Bool
  | .workflow (.definition _) | .workflow (.transition _)
  | .workflow (.instanceNotFound _ _) => true
  | _ => false

theorem Failure.spares_of_isOfData {failure : Failure} (ofData : failure.isOfData = true) :
    failure.refuses = false := by
  cases failure with
  | workflow error => cases error <;> first | rfl | cases ofData
  | _ => rfl

/-- An instance that has not ended may run. -/
theorem State.begins_of_active {state : State} (active : state.isTerminal = false)
    (different : state ≠ .running) : state.canMoveTo .running = true := by
  revert active different
  cases state <;> decide

/-! ## Surroundings that leave the store alone -/

/-- Whether a request changes no record and tells of nothing. -/
def Request.isQuiet : Request → Bool
  | .save _ | .remove _ | .emit _ => false
  | _ => true

namespace Records

variable {σ : Type} (records : Records σ)

variable {records} {request : Request} {answer : request.Answer} {state after : σ}

end Records

/-! ## Runs -/

/-- What holds of a run of an instance that has not ended: it has an instance with the same id,
which is running once the run has begun; it has no failure that refuses a call; and it has altered
no other record. -/
structure Phase.Proper (id : String) (exchanges : List Request.Answered) (phase : Phase) :
    Prop where
  has : ∀ inst, phase.Has inst → inst.id = id
  fresh : ∀ inst, phase = .idle inst → inst.state.isTerminal = false
  running : ∀ inst, phase.worked? = some inst → inst.state = .running
  spared : ∀ failure, phase.failure? = some failure → failure.refuses = false
  own : ∀ exchange ∈ exchanges, ∀ other, alters other exchange.request = true → other = id

section Runs

variable {σ : Type} {records : Records σ} {runner : Runner} {id : String} {phase after : Phase}
variable {exchanges : List Request.Answered}

theorem Phase.Arises.spares {failure : Failure} (proper : phase.Proper id exchanges)
    (arises : phase.Arises runner failure) : failure.refuses = false := by
  cases arises with
  | refused unmoved different =>
      have moves := State.begins_of_active (proper.fresh _ rfl) different
      cases unmoved.symm.trans moves
  | frozen worked different => exact absurd (proper.running _ worked) different
  | noEntry | unknownStep | unregistered => rfl
  | ofData ofData => exact Failure.spares_of_isOfData ofData

/-- The instance that a run saves is running, or was saved for the last time. -/
theorem running_of_saves {saved : Instance} {kept : Phase} {lost : Failure → Phase}
    (running : ∀ inst, phase.worked? = some inst → inst.state = .running)
    (saves : phase.Saves runner saved kept lost) {inst : Instance}
    (worked : kept.worked? = some inst) : inst.state = .running := by
  cases saves with
  | start _ _ starts =>
      cases worked
      rcases Instance.transitionTo_eq_ok.mp starts with ⟨_, rfl⟩
      rfl
  | enter _ moves | leave moves =>
      cases worked
      rcases Instance.setCurrentStep_eq_ok.mp moves with ⟨_, rfl⟩
      exact (running _ rfl :)
  | complete | fail | abort => cases worked

theorem failure?_of_saves {saved : Instance} {kept : Phase} {lost : Failure → Phase}
    (saves : phase.Saves runner saved kept lost) : kept.failure? = phase.failure? := by
  cases saves <;> rfl

variable {request : Request} {answer : request.Answer}

/-- A run stays proper as long as it saves nothing and has no failure that refuses a call. -/
theorem Phase.Proper.onward (proper : phase.Proper id exchanges)
    (spared : ∀ failure, after.failure? = some failure → failure.refuses = false)
    (begun : ∀ inst, after = .idle inst → phase = .idle inst)
    (works : ∀ inst, after.worked? = some inst → phase.worked? = some inst)
    (unaltered : ∀ other, alters other request = false) :
    after.Proper id (exchanges ++ [⟨request, answer⟩]) := by
  constructor
  · intro inst has
    exact proper.has inst (has.imp (begun inst) (works inst))
  · intro inst idle
    exact proper.fresh inst (begun inst idle)
  · intro inst worked
    exact proper.running inst (works inst worked)
  · exact spared
  · intro exchange member other altering
    cases List.mem_append.mp member with
    | inl earlier => exact proper.own exchange earlier other altering
    | inr last =>
        cases List.mem_singleton.mp last
        rw [unaltered other] at altering
        cases altering

/-- A run stays proper when what it saves is kept. -/
theorem Phase.Proper.save {saved : Instance} {kept : Except Failure Unit}
    {lost : Failure → Phase} (proper : phase.Proper id exchanges)
    (saves : phase.Saves runner saved after lost) :
    after.Proper id (exchanges ++ [⟨.save saved, kept⟩]) := by
  have own : saved.id = id := by
    rcases saves.id_eq with ⟨inst, has, same⟩
    exact same.trans (proper.has inst has)
  constructor
  · intro inst has
    rw [saves.kept_has has]
    exact own
  · intro inst idle
    cases saves <;> cases idle
  · intro inst worked
    exact running_of_saves proper.running saves worked
  · intro failure has
    exact proper.spared failure ((failure?_of_saves saves).symm.trans has)
  · intro exchange member other altering
    cases List.mem_append.mp member with
    | inl earlier => exact proper.own exchange earlier other altering
    | inr last =>
        cases List.mem_singleton.mp last
        exact (eq_of_beq altering).symm.trans own

end Runs

end Workflow
