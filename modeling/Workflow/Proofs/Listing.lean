import Mathlib.Logic.Basic
import Workflow.Store.Memory

/-!
# Listings of the store in memory

A listing is a window of the instances that the filter accepts, in the order of their creation.
Instances of one instant stand in the order in which they were first saved.  Naive times are read as
universal time when instances are chosen, but they have no order with times that have an offset: a
filter that accepts instances with both shows none.
-/

namespace Workflow

open Time

namespace MemoryStore

/-! ## Order of creation -/

/-- Instances are put in the order of their creation.  Those of one instant stay as they stood. -/
structure InCreationOrder (instances ordered : List Instance) : Prop where
  perm : ordered.Perm instances
  pairwise : ordered.Pairwise fun left right => left.createdAt.instant ≤ right.createdAt.instant
  stable : ∀ instant, ordered.filter (·.createdAt.instant = instant) =
    instances.filter (·.createdAt.instant = instant)

theorem inCreationOrder_sortByCreation (instances : List Instance) :
    InCreationOrder instances (sortByCreation instances) := by
  let before (left right : Instance) : Bool := left.createdAt.instant ≤ right.createdAt.instant
  have trans (left middle right : Instance) (first : before left middle = true)
      (second : before middle right = true) : before left right = true := by
    simp only [before, decide_eq_true_eq] at first second ⊢
    exact Int.le_trans first second
  have total (left right : Instance) : (before left right || before right left) = true := by
    simp only [before, Bool.or_eq_true, decide_eq_true_eq]
    exact Int.le_total _ _
  have perm : (sortByCreation instances).Perm instances := List.mergeSort_perm instances _
  refine ⟨perm, ?_, fun instant => ?_⟩
  · exact (List.pairwise_mergeSort trans total instances).imp fun sorted => of_decide_eq_true sorted
  · -- those of one instant are in order as they stand, so the sort leaves them in their places
    let made (inst : Instance) : Bool := inst.createdAt.instant = instant
    have level : (instances.filter made).Pairwise fun left right => before left right = true := by
      refine List.pairwise_of_forall_mem_list fun left member right member' => ?_
      have first : left.createdAt.instant = instant :=
        of_decide_eq_true (List.mem_filter.mp member).2
      have second : right.createdAt.instant = instant :=
        of_decide_eq_true (List.mem_filter.mp member').2
      simp [before, first, second]
    have inside := (List.sublist_mergeSort trans total level List.filter_sublist).filter made
    simp only [List.filter_filter, Bool.and_self] at inside
    exact (inside.eq_of_length (perm.filter made).length_eq.symm).symm

/-! ## Times that have no common order -/

/-- Some of the instances were made at naive times, and some at times with an offset. -/
def Mixed (instances : List Instance) : Prop :=
  (∃ inst ∈ instances, inst.createdAt.offset.isNone) ∧
    ∃ inst ∈ instances, inst.createdAt.offset.isSome

theorem comparable_iff {instances : List Instance} :
    comparable (instances.map (·.createdAt)) = true ↔ ¬ Mixed instances := by
  rw [Mixed, not_and_or, not_exists, not_exists]
  simp [comparable, Option.isSome_iff_ne_none]

/-! ## What a listing shows -/

/-- A listing shows the window of the accepted instances in the order of their creation.  It fails
exactly when some of them were made at naive times and some were not, whatever the window is. -/
theorem list_in_creation_order (store : MemoryStore) (filter : Filter) :
    (¬ Mixed (store.instances.filter filter.accepts) →
      ∃ ordered, InCreationOrder (store.instances.filter filter.accepts) ordered ∧
        store.list filter = .ok (filter.window ordered)) ∧
    (Mixed (store.instances.filter filter.accepts) →
      store.list filter = .error (.fault (.time .mixedComparison))) := by
  constructor
  · intro unmixed
    refine ⟨_, inCreationOrder_sortByCreation _, ?_⟩
    rw [list, if_pos (comparable_iff.mpr unmixed)]
  · intro mixed
    rw [list, if_neg fun comparable => comparable_iff.mp comparable mixed]

/-- A store with an instance that was made at the start of the calendar, read off a clock without an
offset, and one that was made an hour later by a clock of universal time. -/
def onTwoClocks : MemoryStore :=
  let definition : Definition := ⟨"noted", "1.0", [("note", .named "note")], [], []⟩
  let hour : Timestamp := ⟨3600000000, some 0, by decide⟩
  (empty.save (.fresh "naive" definition [] default)).save (.fresh "aware" definition [] hour)

/-- Not every store can be listed: both instances are accepted, and their times, read as universal
time, follow each other. -/
theorem not_always_listed :
    onTwoClocks.instances.filter Filter.all.accepts = onTwoClocks.instances ∧
      onTwoClocks.instances.Pairwise (·.createdAt.instant < ·.createdAt.instant) ∧
      ¬ ∃ shown, onTwoClocks.list .all = .ok shown := by
  refine ⟨rfl, by decide, ?_⟩
  rintro ⟨shown, listed⟩
  cases listed

end MemoryStore

end Workflow
