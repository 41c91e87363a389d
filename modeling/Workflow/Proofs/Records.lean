import Workflow.Proofs.Course
import Workflow.Store.Memory

/-!
# Records

Records are a store that neither fails nor forgets: it answers from what it holds, and what it holds
changes by what it is asked to save and to remove.  In the world of a store its own requests are
answered so, actions may answer anything and change the store in any way, and every other request
leaves the store as it is.
-/

namespace Workflow

open Number

/-! ## Stores -/

/-- What a store holds under an id, and how it changes. -/
structure Records (σ : Type) where
  record? : σ → String → Option Instance
  save : σ → Instance → σ
  remove : σ → String → σ
  /-- The name that the store gives of itself. -/
  storage : Option String
  id_of_record? : ∀ {state id inst}, record? state id = some inst → inst.id = id
  record?_save : ∀ state inst id,
    record? (save state inst) id = if inst.id = id then some inst else record? state id
  record?_remove : ∀ state removed id,
    record? (remove state removed) id = if removed = id then none else record? state id

/-- How actions answer, and the states of the store that they leave. -/
structure Actors (σ : Type) where
  make : Invocation → σ → Except Failure Unit → σ → Prop
  permits : Invocation → σ → Except Failure Bool → σ → Prop
  perform : Invocation → σ → Except Failure Reply → σ → Prop
  sleep : Binary64 → σ → Except Failure Unit → σ → Prop

/-- Actions that answer by functions. -/
structure Deeds (σ : Type) where
  make : Invocation → σ → Except Failure Unit × σ := fun _ state => (.ok (), state)
  permits : Invocation → σ → Except Failure Bool × σ := fun _ state => (.ok true, state)
  perform : Invocation → σ → Except Failure Reply × σ

/-- Actions that answer by functions, and waits that take place. -/
def Deeds.actors {σ : Type} (deeds : Deeds σ) : Actors σ where
  make invocation state answer after := (answer, after) = deeds.make invocation state
  permits invocation state answer after := (answer, after) = deeds.permits invocation state
  perform invocation state answer after := (answer, after) = deeds.perform invocation state
  sleep _ state answer after := answer = .ok () ∧ after = state

namespace Records

variable {σ : Type} (records : Records σ)

/-- What loading an id gives. -/
def load (state : σ) (id : String) : Except Failure Instance :=
  match records.record? state id with
  | some inst => .ok inst
  | none => .error (.workflow (.instanceNotFound id records.storage))

/-- The world of a store and of actions. -/
def world (actors : Actors σ) : World σ
  | .contains id, state, answer, after =>
    answer = .ok (records.record? state id).isSome ∧ after = state
  | .load id, state, answer, after => answer = records.load state id ∧ after = state
  | .save inst, state, answer, after => answer = .ok () ∧ after = records.save state inst
  | .remove id, state, answer, after =>
    answer = .ok (records.record? state id).isSome ∧ after = records.remove state id
  | .make invocation, state, answer, after => actors.make invocation state answer after
  | .permits invocation, state, answer, after => actors.permits invocation state answer after
  | .perform invocation, state, answer, after => actors.perform invocation state answer after
  | .sleep seconds, state, answer, after => actors.sleep seconds state answer after
  | .list _, state, _, after | .draw, state, _, after | .freshId, state, _, after
  | .emit _, state, _, after | .log _, state, _, after | .http _, state, _, after => after = state

/-- Answers from a store, and from others where the store is not asked. -/
def reply (others : (request : Request) → request.Answer) :
    (request : Request) → σ → request.Answer × σ
  | .contains id, state => (.ok (records.record? state id).isSome, state)
  | .load id, state => (records.load state id, state)
  | .save inst, state => (.ok (), records.save state inst)
  | .remove id, state => (.ok (records.record? state id).isSome, records.remove state id)
  | request, state => (others request, state)

/-- Answers from a store and from actions that answer by functions. -/
def serve (deeds : Deeds σ) : (request : Request) → σ → request.Answer × σ
  | .contains id, state => (.ok (records.record? state id).isSome, state)
  | .load id, state => (records.load state id, state)
  | .save inst, state => (.ok (), records.save state inst)
  | .remove id, state => (.ok (records.record? state id).isSome, records.remove state id)
  | .make invocation, state => deeds.make invocation state
  | .permits invocation, state => deeds.permits invocation state
  | .perform invocation, state => deeds.perform invocation state
  | .sleep _, state => (.ok (), state)
  | .list _, state => (.ok [], state)
  | .draw, state => (.zero, state)
  | .freshId, state => ("", state)
  | .emit _, state => (true, state)
  | .log _, state => ((), state)
  | .http _, state => (.unreached "", state)

theorem world_serve (deeds : Deeds σ) (request : Request) (state : σ) :
    records.world deeds.actors request state (records.serve deeds request state).1
      (records.serve deeds request state).2 := by
  cases request with
  | make | permits | perform => rfl
  | contains | load | save | remove | sleep => exact ⟨rfl, rfl⟩
  | list | draw | freshId | emit | log | http => rfl

theorem load_eq_ok {state : σ} {id : String} {inst : Instance} :
    records.load state id = .ok inst ↔ records.record? state id = some inst := by
  simp only [load]
  cases records.record? state id with
  | none => simp
  | some stored => simp

@[simp] theorem record?_save_self (state : σ) (inst : Instance) :
    records.record? (records.save state inst) inst.id = some inst := by
  rw [records.record?_save, if_pos rfl]

end Records

/-! ## The store in memory -/

namespace MemoryStore

theorem find?_put (inst : Instance) (id : String) (instances : List Instance) :
    (put inst instances).find? (·.id == id) =
      if inst.id = id then some inst else instances.find? (·.id == id) := by
  induction instances with
  | nil => by_cases same : inst.id = id <;> simp [put, same]
  | cons other rest ih =>
      simp only [put]
      by_cases replaced : other.id = inst.id
      · by_cases same : inst.id = id <;> simp [replaced, same]
      · by_cases found : other.id = id
        · subst found
          simp [replaced, Ne.symm replaced]
        · simp [replaced, found, ih]

/-- The records of a store in memory. -/
def records : Records MemoryStore where
  record? := find?
  save := save
  remove store id := (store.delete id).2
  storage := some "memory"
  id_of_record? found := by
    have same := List.find?_some found
    exact eq_of_beq same
  record?_save store inst id := find?_put inst id store.instances
  record?_remove store removed id := by
    simp only [find?, delete, List.find?_filter]
    by_cases same : removed = id
    · subst same
      simp
    · rw [if_neg same]
      congr 1
      funext inst
      by_cases found : inst.id = id
      · simp [found, Ne.symm same]
      · simp [found]

end MemoryStore

end Workflow
