import Workflow.Proofs.Compensation

/-!
# The order of undoing

The step that failed is undone first, and then the completed steps in reverse.  A step that was
completed several times, as steps on a cycle are, is undone once, at the place of its last
completion.
-/

namespace Workflow

/-! ## First occurrences -/

/-- In a list of ids, one stands before all places of another. -/
def Precedes (ids : List String) (first second : String) : Prop :=
  ∃ before after, ids = before ++ first :: after ∧
    first ∉ before ∧ second ∉ before ∧ second ∈ after

theorem Precedes.cons {ids : List String} {first second : String} (precedes : Precedes ids first second)
    {id : String} (firstOther : first ≠ id) (secondOther : second ≠ id) :
    Precedes (id :: ids) first second := by
  obtain ⟨before, after, rfl, firstLate, secondLate, later⟩ := precedes
  exact ⟨id :: before, after, rfl, by simp [firstOther, firstLate],
    by simp [secondOther, secondLate], later⟩

/-- First occurrences stand in the order of the list. -/
theorem pairwise_firstOccurrences (ids : List String) :
    (firstOccurrences ids).Pairwise (Precedes ids) := by
  induction ids with
  | nil => exact .nil
  | cons id rest ih =>
      refine .cons ?_ ?_
      · intro other member
        obtain ⟨inside, differs⟩ := List.mem_filter.mp member
        exact ⟨[], rest, rfl, by simp, by simp, mem_firstOccurrences.mp inside⟩
      · refine (ih.filter _).imp_of_mem fun first second precedes => ?_
        have firstOther := (List.mem_filter.mp first).2
        have secondOther := (List.mem_filter.mp second).2
        exact precedes.cons (by simpa using firstOther) (by simpa using secondOther)

/-! ## Last completions -/

/-- The last completion of one step is later than the last one of another. -/
def Instance.CompletedAfter (inst : Instance) (later earlier : Step) : Prop :=
  ∃ before after, inst.completed = before ++ .text later.id :: after ∧
    .text later.id ∉ after ∧ .text earlier.id ∉ after ∧ .text earlier.id ∈ before

/-- What comes first in the reverse of the completed steps was completed last. -/
theorem Instance.completedAfter_of_precedes {inst : Instance} {later earlier : Step}
    (precedes : Precedes (inst.completed.reverse.filterMap Value.text?) later.id earlier.id) :
    inst.CompletedAfter later earlier := by
  obtain ⟨before, after, splits, laterNew, earlierNew, among⟩ := precedes
  obtain ⟨front, back, whole, rfl, rest⟩ := List.filterMap_eq_append_iff.mp splits
  obtain ⟨skipped, value, others, rfl, nameless, named, rfl⟩ := List.filterMap_eq_cons_iff.mp rest
  obtain rfl := Value.text?_eq_some.mp named
  -- what stands before in the reverse is no text, or a text of another step
  have absent : ∀ id, id ∉ front.filterMap Value.text? →
      .text id ∉ skipped.reverse ++ front.reverse := by
    intro id new member
    rcases List.mem_append.mp member with inside | inside
    · have none := nameless (.text id) (List.mem_reverse.mp inside)
      cases none
    · exact new (mem_texts.mpr (List.mem_reverse.mp inside))
  refine ⟨others.reverse, skipped.reverse ++ front.reverse, ?_, absent _ laterNew,
    absent _ earlierNew, ?_⟩
  · simpa using congrArg List.reverse whole
  · exact List.mem_reverse.mpr (mem_texts.mp among)

/-! ## The whole order -/

/-- An order in which steps are undone in reverse: each step that is to be undone once, the failed one
first, and of two others first the one that was completed later. -/
structure Instance.Reverses (inst : Instance) (failed : Step) (order : List Step) : Prop where
  nodup : order.Nodup
  mem_iff : ∀ step, step ∈ order ↔ inst.ToUndo failed step
  failed_first : failed.compensation.isSome = true → order.head? = some failed
  latest_first : order.Pairwise fun first second =>
    first ≠ failed → second ≠ failed → inst.CompletedAfter first second

section Order

variable {inst : Instance} {failed : Step}

theorem head?_compensationOrder (declared : inst.definition.step? failed.id = some failed)
    (reversible : failed.compensation.isSome = true) :
    (compensationOrder inst failed).head? = some failed := by
  simp [compensationOrder, firstOccurrences, declared, reversible]

/-- Behind the failed step, ids stand in the order of the reverse of the completed steps. -/
theorem pairwise_firstOccurrences_cons (id : String) (ids : List String) :
    (firstOccurrences (id :: ids)).Pairwise fun first second =>
      first ≠ id → second ≠ id → Precedes ids first second := by
  refine .cons ?_ ?_
  · intro _ _ other
    exact absurd rfl other
  · exact ((pairwise_firstOccurrences ids).filter _).imp fun precedes _ _ => precedes

theorem pairwise_compensationOrder (keyed : inst.definition.Keyed)
    (declared : inst.definition.step? failed.id = some failed) :
    (compensationOrder inst failed).Pairwise fun first second =>
      first ≠ failed → second ≠ failed → inst.CompletedAfter first second := by
  have other : ∀ {id : String} {step : Step}, inst.definition.step? id = some step →
      step ≠ failed → id ≠ failed.id := by
    intro id step found differs same
    rw [same, declared] at found
    exact differs (Option.some.inj found).symm
  apply List.Pairwise.filter
  rw [List.pairwise_filterMap]
  refine (pairwise_firstOccurrences_cons _ _).imp ?_
  intro firstId secondId precedes first foundFirst second foundSecond firstOther secondOther
  have ordered := precedes (other foundFirst firstOther) (other foundSecond secondOther)
  rw [← keyed.id_of_step? foundFirst, ← keyed.id_of_step? foundSecond] at ordered
  exact Instance.completedAfter_of_precedes ordered

/-- When a step fails, the steps that are to be undone are undone in reverse, however often each of
them was completed. -/
theorem compensationOrder_reverses (keyed : inst.definition.Keyed)
    (declared : inst.definition.step? failed.id = some failed) :
    inst.Reverses failed (compensationOrder inst failed) where
  nodup := nodup_compensationOrder keyed
  mem_iff _ := mem_compensationOrder keyed declared
  failed_first := head?_compensationOrder declared
  latest_first := pairwise_compensationOrder keyed declared

end Order

/-- A definition in which all steps but the last one can be undone. -/
def Definition.revising : Definition :=
  let reversible (id : String) : String × Step :=
    (id, { Step.named id with action := some "act", compensation := some "undo" })
  ⟨"revising", "1.0",
    [reversible "draft", reversible "check", reversible "review",
      ("print", { Step.named "print" with action := some "act" })],
    [⟨"draft", "review", none, []⟩, ⟨"review", "draft", none, []⟩], []⟩

/-- A review that was completed before fails, after the draft was completed again. -/
theorem compensationOrder_reverses_revising :
    let completed := ["draft", "check", "review", "draft", "print", "lost"]
    let inst := { Instance.fresh "w" .revising [] default with completed := completed.map .text }
    let undone (id : String) : Step :=
      { Step.named id with action := some "act", compensation := some "undo" }
    inst.definition.Keyed ∧ inst.definition.step? "review" = some (undone "review") ∧
      inst.Reverses (undone "review") [undone "review", undone "draft", undone "check"] := by
  intro completed inst undone
  have keyed : inst.definition.Keyed := by
    show ∀ entry ∈ Definition.revising.steps, entry.2.id = entry.1
    decide
  refine ⟨keyed, rfl, ?_⟩
  have order : compensationOrder inst (undone "review") =
      [undone "review", undone "draft", undone "check"] := by
    decide +kernel
  rw [← order]
  exact compensationOrder_reverses keyed rfl

end Workflow
