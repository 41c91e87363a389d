import Workflow.Error.Basic
import Workflow.Instance.Filter

/-!
# The store in memory

Instances by their ids, in the order in which their ids were first saved. Saving an instance again
keeps its place; after a deletion its id counts as new.
-/

namespace Workflow

open Time

/-- Instances in the order in which their ids were first saved. -/
structure MemoryStore where
  instances : List Instance

namespace MemoryStore

/-- The store without instances. -/
def empty : MemoryStore := ⟨[]⟩

/-- The instance with an id. -/
def find? (store : MemoryStore) (id : String) : Option Instance :=
  store.instances.find? (·.id == id)

/-- Whether an id is taken. -/
def contains (store : MemoryStore) (id : String) : Bool :=
  (store.find? id).isSome

/-- Instances with one put in the place of that with its id, or at the end. -/
def put (inst : Instance) : List Instance → List Instance
  | [] => [inst]
  | other :: rest => if other.id == inst.id then inst :: rest else other :: put inst rest

/-- Saves an instance under its id. -/
def save (store : MemoryStore) (inst : Instance) : MemoryStore :=
  ⟨put inst store.instances⟩

/-- Loads the instance with an id. -/
def load (store : MemoryStore) (id : String) : Except Failure Instance :=
  match store.find? id with
  | some inst => .ok inst
  | none => .error (.workflow (.instanceNotFound id (some "memory")))

/-- Deletes the instance with an id; tells whether there was one. -/
def delete (store : MemoryStore) (id : String) : Bool × MemoryStore :=
  (store.contains id, ⟨store.instances.filter (·.id != id)⟩)

/-- Whether all of some times have an offset or all have none, so that they can be put in order. -/
def comparable (times : List Timestamp) : Bool :=
  times.all (·.offset.isSome) || times.all (·.offset.isNone)

/-- Instances in the order of their creation; those of one instant keep their places. -/
def sortByCreation (instances : List Instance) : List Instance :=
  instances.mergeSort fun left right => left.createdAt.instant ≤ right.createdAt.instant

/-- The instances that a filter shows, in the order of their creation. Times with and without an offset
have no common order. -/
def list (store : MemoryStore) (filter : Filter) : Except Failure (List Instance) :=
  let chosen := store.instances.filter filter.accepts
  if comparable (chosen.map (·.createdAt)) then .ok (filter.window (sortByCreation chosen))
  else .error (.fault (.time .mixedComparison))

end MemoryStore

end Workflow
