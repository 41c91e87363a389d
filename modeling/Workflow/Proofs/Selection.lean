import Workflow.Proofs.Phase
import Workflow.Proofs.Reading

/-!
# The step after a step

A step leads to the target of the first of its transitions that fires.  When none does, it leads to
the next declared step that was neither completed nor skipped, and with no transition or no such
step it leads nowhere.
-/

namespace Workflow

/-! ## Preconditions -/

namespace Condition

variable {data : Value} {conditions : List String} {condition : String}

theorem firstFalse?_cons {declined : Option String} :
    firstFalse? .text data (condition :: conditions) = .ok declined ↔
      evaluate (.text condition) data = .ok true ∧
          firstFalse? .text data conditions = .ok declined ∨
        evaluate (.text condition) data = .ok false ∧ declined = some condition := by
  rw [firstFalse?, then_eq_ok]
  constructor
  · rintro ⟨holds, given, rest⟩
    cases holds with
    | true => exact .inl ⟨given, rest⟩
    | false =>
        cases rest
        exact .inr ⟨given, rfl⟩
  · rintro (⟨given, rest⟩ | ⟨given, rfl⟩)
    · exact ⟨true, given, rest⟩
    · exact ⟨false, given, rfl⟩

theorem firstFalse?_eq_none :
    firstFalse? .text data conditions = .ok none ↔
      ∀ condition ∈ conditions, evaluate (.text condition) data = .ok true := by
  induction conditions with
  | nil => simp [firstFalse?]
  | cons condition rest ih => simp [firstFalse?_cons, ih]

theorem firstFalse?_eq_some (declined : firstFalse? .text data conditions = .ok (some condition)) :
    condition ∈ conditions ∧ evaluate (.text condition) data = .ok false := by
  induction conditions with
  | nil => cases declined
  | cons first rest ih =>
      rcases firstFalse?_cons.mp declined with ⟨_, later⟩ | ⟨given, same⟩
      · exact ⟨List.mem_cons_of_mem first (ih later).1, (ih later).2⟩
      · cases same
        exact ⟨List.mem_cons_self, given⟩

end Condition

/-! ## Transitions -/

/-- A transition is open: it has no condition, or its condition holds on the data. -/
def Transition.Fires (transition : Transition) (data : Dict) : Prop :=
  match transition.condition with
  | none => True
  | some condition => Condition.evaluate (.text condition) (.dict data) = .ok true

/-- A transition has a condition, which does not hold on the data. -/
def Transition.Declines (transition : Transition) (data : Dict) : Prop :=
  match transition.condition with
  | none => False
  | some condition => Condition.evaluate (.text condition) (.dict data) = .ok false

section Selecting

variable {inst : Instance} {transitions : List Transition}

theorem selectTransition_cons {transition : Transition} {target : Option String} :
    selectTransition inst (transition :: transitions) = .ok target ↔
      transition.Fires inst.data ∧ target = some transition.target ∨
        transition.Declines inst.data ∧ selectTransition inst transitions = .ok target := by
  simp only [selectTransition, Transition.Fires, Transition.Declines]
  cases transition.condition with
  | none => simpa [bind, Except.bind] using eq_comm
  | some condition =>
      simp only [then_eq_ok]
      constructor
      · rintro ⟨holds, given, rest⟩
        cases holds with
        | true =>
            cases rest
            exact .inl ⟨given, rfl⟩
        | false => exact .inr ⟨given, rest⟩
      · rintro (⟨given, rfl⟩ | ⟨given, rest⟩)
        · exact ⟨true, given, rfl⟩
        · exact ⟨false, given, rest⟩

theorem selectTransition_eq_none :
    selectTransition inst transitions = .ok none ↔
      ∀ transition ∈ transitions, transition.Declines inst.data := by
  induction transitions with
  | nil => simp [selectTransition]
  | cons transition rest ih => simp [selectTransition_cons, ih]

theorem selectTransition_eq_some {target : String} :
    selectTransition inst transitions = .ok (some target) ↔
      ∃ earlier transition later, transitions = earlier ++ transition :: later ∧
        (∀ other ∈ earlier, other.Declines inst.data) ∧ transition.Fires inst.data ∧
        transition.target = target := by
  induction transitions with
  | nil => simp [selectTransition]
  | cons first rest ih =>
      rw [selectTransition_cons, ih]
      constructor
      · rintro (⟨fires, same⟩ | ⟨declines, earlier, transition, later, rfl, others, fires, same⟩)
        · cases same
          exact ⟨[], first, rest, rfl, by simp, fires, rfl⟩
        · refine ⟨first :: earlier, transition, later, rfl, ?_, fires, same⟩
          exact List.forall_mem_cons.mpr ⟨declines, others⟩
      · rintro ⟨earlier, transition, later, split, others, fires, same⟩
        cases earlier with
        | nil =>
            cases split
            exact .inl ⟨fires, congrArg some same.symm⟩
        | cons other earlier =>
            cases split
            have others := List.forall_mem_cons.mp others
            exact .inr ⟨others.1, earlier, transition, later, rfl, others.2, fires, same⟩

end Selecting

/-! ## The order of declaration -/

theorem Value.same_text {value : Value} {text : String} :
    value.same (.text text) = true ↔ value = .text text := by
  cases value with
  | scalar scalar =>
      cases scalar <;> simp [Value.same, Scalar.same, Scalar.equals, Scalar.position?]
  | _ => simp [Value.same]

/-- A step was completed or skipped. -/
def Instance.HasPassed (inst : Instance) (step : Step) : Prop :=
  .text step.id ∈ inst.completed ∨ .text step.id ∈ inst.skipped

section Falling

variable {inst : Instance} {key : String}

theorem isUnpassed_iff {step : Step} :
    (!inst.isCompleted (.text step.id) && !inst.skipped.contains (.text step.id)) = true ↔
      ¬ inst.HasPassed step := by
  have completed : inst.isCompleted (.text step.id) = true ↔ .text step.id ∈ inst.completed := by
    simp [Instance.isCompleted, Value.same_text]
  simp [Instance.HasPassed, ← completed]

theorem fallbackStep?_eq_none :
    fallbackStep? inst key = none ↔
      ∀ step ∈ inst.definition.stepsAfter key, inst.HasPassed step := by
  simp only [fallbackStep?, Option.map_eq_none_iff, List.find?_eq_none, isUnpassed_iff,
    Classical.not_not]

theorem fallbackStep?_eq_some {next : String} :
    fallbackStep? inst key = some next ↔
      ∃ passed step later, inst.definition.stepsAfter key = passed ++ step :: later ∧
        (∀ other ∈ passed, inst.HasPassed other) ∧ ¬ inst.HasPassed step ∧ step.id = next := by
  have passed : ∀ other : Step,
      (!(!inst.isCompleted (.text other.id) && !inst.skipped.contains (.text other.id))) = true ↔
        inst.HasPassed other := by
    intro other
    rw [Bool.not_eq_true', ← Bool.not_eq_true, isUnpassed_iff, Classical.not_not]
  simp only [fallbackStep?, Option.map_eq_some_iff, List.find?_eq_some_iff_append, isUnpassed_iff,
    passed]
  constructor
  · rintro ⟨step, ⟨unpassed, earlier, later, split, others⟩, same⟩
    exact ⟨earlier, step, later, split, others, unpassed, same⟩
  · rintro ⟨earlier, step, later, split, others, unpassed, same⟩
    exact ⟨step, ⟨unpassed, earlier, later, split, others⟩, same⟩

end Falling

/-! ## Where a step leads -/

/-- Where the step under a key leads once it was processed, if it leads anywhere. -/
inductive Instance.Leads (inst : Instance) (key : String) : Option String → Prop where
  | ends : inst.definition.outgoing key = [] → Leads inst key none
  /-- The first transition that fires leads to its target. -/
  | fires {earlier later : List Transition} {transition : Transition} :
      inst.definition.outgoing key = earlier ++ transition :: later →
      (∀ other ∈ earlier, other.Declines inst.data) → transition.Fires inst.data →
      Leads inst key (some transition.target)
  /-- No transition fires, and there is a later step that was not passed. -/
  | falls {passed later : List Step} {step : Step} :
      inst.definition.outgoing key ≠ [] →
      (∀ transition ∈ inst.definition.outgoing key, transition.Declines inst.data) →
      inst.definition.stepsAfter key = passed ++ step :: later →
      (∀ other ∈ passed, inst.HasPassed other) → ¬ inst.HasPassed step →
      Leads inst key (some step.id)
  /-- No transition fires, and all later steps were passed. -/
  | exhausts :
      inst.definition.outgoing key ≠ [] →
      (∀ transition ∈ inst.definition.outgoing key, transition.Declines inst.data) →
      (∀ step ∈ inst.definition.stepsAfter key, inst.HasPassed step) →
      Leads inst key none

section Leading

variable {inst : Instance} {key : String}

/-- A run goes on where the step that it processed leads. -/
theorem chosenStep_eq_ok {next : Option String} :
    chosenStep inst key = .ok next ↔ inst.Leads key next := by
  constructor
  · intro chooses
    simp only [chosenStep, List.isEmpty_iff] at chooses
    split at chooses
    · next leaves =>
        cases chooses
        exact .ends leaves
    · next leaves =>
        split at chooses
        · cases chooses
        · next selects =>
            cases chooses
            rcases selectTransition_eq_some.mp selects with
              ⟨earlier, transition, later, split, others, fires, rfl⟩
            exact .fires split others fires
        · next selects =>
            have declines := selectTransition_eq_none.mp selects
            cases falls : fallbackStep? inst key with
            | none =>
                rw [falls] at chooses
                cases chooses
                exact .exhausts leaves declines (fallbackStep?_eq_none.mp falls)
            | some target =>
                rw [falls] at chooses
                cases chooses
                rcases fallbackStep?_eq_some.mp falls with
                  ⟨passed, step, later, split, others, unpassed, rfl⟩
                exact .falls leaves declines split others unpassed
  · intro leads
    cases leads with
    | ends leaves => simp [chosenStep, leaves]
    | @fires earlier later transition split others fires =>
        have selects : selectTransition inst (inst.definition.outgoing key) =
            .ok (some transition.target) :=
          selectTransition_eq_some.mpr ⟨_, _, _, split, others, fires, rfl⟩
        have leaves : inst.definition.outgoing key ≠ [] := by simp [split]
        simp [chosenStep, leaves, selects]
    | @falls passed later step leaves declines split others unpassed =>
        have selects := selectTransition_eq_none.mpr declines
        have falls : fallbackStep? inst key = some step.id :=
          fallbackStep?_eq_some.mpr ⟨_, _, _, split, others, unpassed, rfl⟩
        simp [chosenStep, leaves, selects, falls]
    | exhausts leaves declines passed =>
        have selects := selectTransition_eq_none.mpr declines
        have falls := fallbackStep?_eq_none.mpr passed
        simp [chosenStep, leaves, selects, falls]

/-- A step leads to a declared step. -/
theorem Instance.Leads.declared {next : String} (leads : inst.Leads key (some next))
    (wellFormed : inst.definition.WellFormed) : next ∈ inst.definition.stepIds := by
  cases leads with
  | @fires earlier later transition split _ _ =>
      have member : transition ∈ inst.definition.outgoing key := by simp [split]
      have listed := (List.mem_filter.mp member).1
      exact (wellFormed.declared_of_mem_transitions transition listed).2
  | @falls passed later step _ _ split _ _ =>
      have member : step ∈ inst.definition.stepsAfter key := by simp [split]
      obtain ⟨entry, inside, rfl⟩ := List.mem_map.mp member
      have listed : entry ∈ inst.definition.steps :=
        (List.dropWhile_sublist _).subset (List.mem_of_mem_drop inside)
      rw [wellFormed.id_of_mem_steps entry listed]
      exact List.mem_map_of_mem listed

end Leading

end Workflow
