import Mathlib.Data.List.Nodup
import Workflow.Proofs.Drafting

/-!
# Steps that are numbered

A step that no id is asked for is given the first numbered id that is free, from the number of the
step on.  The search climbs past the ids that other steps have and knows no bound.  It ends all the
same: the ids of different numbers are different, so the steps of a draft cannot have all of those of
more numbers than there are steps.  The id that it finds is an identifier that no step has, and thus
no call is refused for the id that it was given.
-/

namespace Workflow

namespace Draft

/-! ## Numbered ids -/

theorem toList_numberedId (number : Nat) :
    (numberedId number).toList = 's' :: 't' :: 'e' :: 'p' :: '_' :: Nat.toDigits 10 number := by
  simp [numberedId, toString, Nat.toList_repr]

/-- The ids of different numbers are different: the number can be read back from its digits. -/
theorem numberedId_injective : Function.Injective numberedId := by
  intro number other same
  have digits : Nat.toDigits 10 number = Nat.toDigits 10 other := by
    simpa [toList_numberedId] using congrArg String.toList same
  rw [← Nat.ofDigitChars_ten_toDigits (n := number), digits, Nat.ofDigitChars_ten_toDigits]

theorem isIdentifierChar_of_isDigit {c : Char} (digit : c.isDigit = true) :
    isIdentifierChar c = true := by
  have bounds : '0' ≤ c ∧ c ≤ '9' := by simpa [Char.isDigit, Char.le_def] using digit
  simp [isIdentifierChar, bounds]

theorem isIdentifier_numberedId (number : Nat) : isIdentifier (numberedId number) = true := by
  have plain : ∀ c ∈ 't' :: 'e' :: 'p' :: '_' :: Nat.toDigits 10 number,
      isIdentifierChar c = true := by
    have digits : ∀ c ∈ Nat.toDigits 10 number, isIdentifierChar c = true := fun _ member =>
      isIdentifierChar_of_isDigit (Nat.isDigit_of_mem_toDigits (by decide) (by decide) member)
    simp only [List.forall_mem_cons]
    exact ⟨by decide, by decide, by decide, by decide, digits⟩
  -- so there is no line break at the end
  have unbroken : ('t' :: 'e' :: 'p' :: '_' :: Nat.toDigits 10 number).getLast? ≠ some '\n' :=
    fun broken => absurd (plain _ (List.mem_of_getLast? broken)) (by decide)
  rw [isIdentifier, toList_numberedId]
  simp only [if_neg unbroken, Bool.and_eq_true, List.all_eq_true]
  exact ⟨by decide, plain⟩

/-! ## The search for a free number -/

/-- The search for a number whose id no step has, from a number on: it ends at such a number, and
goes on with the next one at any other. -/
inductive Search (draft : Draft) : Nat → Nat → Prop where
  | found {number : Nat} (free : numberedId number ∉ draft.stepIds) : Search draft number number
  | climb {number found : Nat} (taken : numberedId number ∈ draft.stepIds)
      (rest : Search draft (number + 1) found) : Search draft number found

variable {draft : Draft} {number found other : Nat}

theorem Search.free (search : draft.Search number found) : numberedId found ∉ draft.stepIds := by
  induction search with
  | found free => exact free
  | climb _ _ ih => exact ih

/-- A search has one end. -/
theorem Search.unique (search : draft.Search number found) (again : draft.Search number other) :
    found = other := by
  induction search with
  | found free =>
      cases again with
      | found => rfl
      | climb taken => exact absurd taken free
  | climb taken _ ih =>
      cases again with
      | found free => exact absurd taken free
      | climb _ rest => exact ih rest

/-- Among more numbers than there are steps, there is one whose id no step has. -/
theorem exists_free (draft : Draft) {numbers : List Nat} (distinct : numbers.Nodup)
    (many : draft.steps.length < numbers.length) :
    ∃ number ∈ numbers, numberedId number ∉ draft.stepIds := by
  by_contra! taken
  have ids : numbers.map numberedId ⊆ draft.stepIds := by
    intro id member
    obtain ⟨number, among, rfl⟩ := List.mem_map.mp member
    exact taken number among
  have few := (distinct.map numberedId_injective).length_le_of_subset ids
  rw [List.length_map, stepIds, List.length_map] at few
  omega

theorem search_of_find (start count : Nat)
    (finds : (List.range' start count).find?
      (fun number => !draft.steps.any (·.id == numberedId number)) = some found) :
    draft.Search start found := by
  induction count generalizing start with
  | zero => simp at finds
  | succ count ih =>
      rw [List.range'_succ, List.find?_cons] at finds
      split at finds
      · next free =>
          cases finds
          exact .found (by simpa [stepIds] using free)
      · next taken => exact .climb (by simpa [stepIds] using taken) (ih (start + 1) finds)

/-- The search for a number from the one of the next step on ends, and the id of the number that it
finds is the fresh one. -/
theorem search_freshId (draft : Draft) :
    ∃ number, draft.Search (draft.steps.length + 1) number ∧ draft.freshId = numberedId number := by
  let start := draft.steps.length + 1
  have finds : ((List.range' start start).find?
      fun number => !draft.steps.any (·.id == numberedId number)).isSome = true := by
    have distinct : (List.range' start start).Nodup := List.nodup_range'
    obtain ⟨number, among, free⟩ := draft.exists_free distinct (by simp [start])
    exact List.find?_isSome.mpr ⟨number, among, by simpa [stepIds] using free⟩
  obtain ⟨number, found⟩ := Option.isSome_iff_exists.mp finds
  refine ⟨number, search_of_find start start found, ?_⟩
  rw [List.range'_eq_map_range] at found
  simp only [freshId, start] at found ⊢
  rw [found, Option.getD_some]

theorem freshId_not_mem (draft : Draft) : draft.freshId ∉ draft.stepIds := by
  obtain ⟨number, search, same⟩ := draft.search_freshId
  exact same ▸ search.free

theorem isIdentifier_freshId (draft : Draft) : isIdentifier draft.freshId = true := by
  obtain ⟨number, _, same⟩ := draft.search_freshId
  exact same ▸ isIdentifier_numberedId number

theorem checkId_freshId (draft : Draft) :
    draft.checkId (.text draft.freshId) = .ok draft.freshId := by
  have fresh : draft.steps.any (·.id == draft.freshId) = false := by
    simpa [stepIds] using draft.freshId_not_mem
  simp [checkId, fresh, draft.isIdentifier_freshId]

end Draft

/-! ## What steps without an id are refused for -/

/-- Whether a failure puts the blame on the id of a step: that it is none, or taken. -/
def Failure.blamesId : Failure → Bool
  | .definition error =>
    match error.fault with
    | .invalidStepId _ | .duplicateStepId _ => true
    | _ => false
  | _ => false

/-- A computation puts no blame on an id. -/
def SparesIds {α : Type} (result : Except Failure α) : Prop :=
  FailsOnly (·.blamesId = false) result

namespace Draft

section Sparing

variable {draft next : Draft} {request : StepRequest}

theorem refuse_spares {α : Type} {fault : DefinitionFault}
    (other : (Failure.definition (.alone fault)).blamesId = false) :
    SparesIds (refuse fault : Except Failure α) := by
  apply FailsOnly.error
  split
  · exact other
  · rfl

theorem checkRetryAttempts_spares (id : String) (attempts : Value) :
    SparesIds (checkRetryAttempts id attempts) := by
  unfold checkRetryAttempts
  split
  · split
    · exact .ok _
    · exact refuse_spares rfl
  · exact refuse_spares rfl

theorem checkTimeout_spares (id : String) (timeout : Value) :
    SparesIds (checkTimeout id timeout) := by
  unfold checkTimeout
  split
  · split
    · exact refuse_spares rfl
    · split
      · exact .error rfl
      · exact .ok _
  · -- the number before the unit may be too long to be read
    dsimp only
    split
    · split
      · exact .error rfl
      · split
        · exact .ok _
        · exact refuse_spares rfl
    · exact refuse_spares rfl
  · exact refuse_spares rfl

theorem checkCondition_spares (condition : Value) : SparesIds (checkCondition condition) := by
  unfold checkCondition
  split
  · split
    · exact refuse_spares rfl
    · exact .ok _
  · exact refuse_spares rfl

theorem mapM_checkCondition_spares (conditions : List Value) :
    SparesIds (conditions.mapM checkCondition) := by
  induction conditions with
  | nil => exact .ok _
  | cons condition rest ih =>
      rw [List.mapM_cons]
      exact FailsOnly.bind (checkCondition_spares condition) fun _ _ => ih.bind fun _ _ => .ok _

theorem itemsOf_spares (value : Value) : SparesIds (itemsOf value) := by
  unfold itemsOf
  split
  · exact .ok _
  · split
    · exact .ok _
    · exact .ok _
    · exact .ok _
    · exact .error rfl

/-- A request whose id is accepted is not refused for its id. -/
theorem stepOf_spares {id : String} (accepted : draft.checkId request.id = .ok id) :
    SparesIds (draft.stepOf request) := by
  have rest (build : List String → DraftStep) : SparesIds (do
      let own ← itemsOf request.conditions
      let conditions ← (draft.conditions.map Value.text ++ own).mapM checkCondition
      .ok (build conditions)) :=
    FailsOnly.bind (itemsOf_spares _) fun _ _ =>
      FailsOnly.bind (mapM_checkCondition_spares _) fun _ _ => .ok _
  simp only [stepOf, accepted]
  refine FailsOnly.bind (.ok id) fun _ _ => ?_
  refine FailsOnly.bind (checkRetryAttempts_spares _ _) fun _ _ => ?_
  refine FailsOnly.bind (FailsOnly.mapError fun _ => rfl) fun _ _ => ?_
  split
  · exact FailsOnly.bind (.ok none) fun _ _ => rest _
  · exact FailsOnly.bind ((checkTimeout_spares _ _).map some) fun _ _ => rest _

/-- A step without an id is given the fresh one. -/
theorem append_without (without : request.id.truthy = false) :
    draft.append request = draft.addStep { request with id := .text draft.freshId } := by
  simp [append, without]

/-- What becomes of a draft that is to have a step with the fresh id more: it has, or the step is
refused for something else than its id. -/
structure Numbers (draft : Draft) (changed : Except Failure Draft) : Prop where
  spares : SparesIds changed
  adds : ∀ next, changed = .ok next →
    ∃ step, step.id = draft.freshId ∧ next.steps = draft.steps ++ [step]

theorem Numbers.error {failure : Failure} (spares : failure.blamesId = false) :
    draft.Numbers (.error failure) :=
  ⟨.error spares, nofun⟩

theorem Numbers.bind {α : Type} {first : Except Failure α} {rest : α → Except Failure Draft}
    (begins : SparesIds first) (goesOn : ∀ value, draft.Numbers (rest value)) :
    draft.Numbers (first >>= rest) where
  spares := FailsOnly.bind begins fun value _ => (goesOn value).spares
  adds next adds := by
    obtain ⟨value, _, adds⟩ := then_eq_ok.mp adds
    exact (goesOn value).adds next adds

theorem append_numbers (without : request.id.truthy = false) :
    draft.Numbers (draft.append request) := by
  rw [append_without without]
  refine ⟨FailsOnly.bind (stepOf_spares draft.checkId_freshId) fun _ _ => .ok _, ?_⟩
  intro next adds
  obtain ⟨step, made, adds⟩ := then_eq_ok.mp adds
  have same : Value.text draft.freshId = .text step.id := (stepOf_eq_ok made).1
  cases adds
  exact ⟨step, by simpa using same.symm, rfl⟩

theorem refuse_numbers {fault : DefinitionFault}
    (other : (Failure.definition (.alone fault)).blamesId = false) :
    draft.Numbers (refuse fault) :=
  ⟨refuse_spares other, nofun⟩

theorem addDelay_numbers {id : Value} (without : id.truthy = false)
    (seconds minutes hours : Value) : draft.Numbers (draft.addDelay seconds minutes hours id) := by
  refine .bind (.mapError fun _ => rfl) fun total => ?_
  refine .bind (.mapError fun _ => rfl) fun spent => ?_
  split
  · exact refuse_numbers rfl
  · exact append_numbers without

theorem addHttp_numbers (without : request.id.truthy = false) (url method data headers : Value) :
    draft.Numbers (draft.addHttp url method data headers request) := by
  unfold addHttp
  split
  · exact append_numbers without
  · exact .error rfl

theorem addCondition_numbers {id : Value} (without : id.truthy = false)
    (expression onTrue onFalse : Value) :
    draft.Numbers (draft.addCondition expression onTrue onFalse id) :=
  .bind (checkCondition_spares expression) fun _ => append_numbers without

end Sparing

end Draft

/-! ## Calls without an id -/

/-- The id that a call for a step asks for, if it may do without. -/
def BuilderCall.optionalId? : BuilderCall → Option Value
  | .append request | .http _ _ _ _ request => some request.id
  | .log _ _ id | .delay _ _ _ id | .condition _ _ _ id => some id
  | .describe _ | .setVersion _ | .addMetadata _ | .addStep _ | .addTransition _ _ _ | .block _ _
  | .build => none

namespace Draft

variable {draft : Draft} {call : BuilderCall}

/-- A call for a step without an id tries to add one with the fresh id. -/
theorem call_settles {id : Value} (asks : call.optionalId? = some id)
    (without : id.truthy = false) :
    ∃ changed, draft.call call = draft.settle changed ∧ draft.Numbers changed := by
  cases call with
  | append =>
      cases asks
      exact ⟨_, rfl, append_numbers without⟩
  | log =>
      cases asks
      exact ⟨_, rfl, append_numbers without⟩
  | delay seconds minutes hours =>
      cases asks
      exact ⟨_, rfl, addDelay_numbers without seconds minutes hours⟩
  | http url method data headers =>
      cases asks
      exact ⟨_, rfl, addHttp_numbers without url method data headers⟩
  | condition expression onTrue onFalse =>
      cases asks
      exact ⟨_, rfl, addCondition_numbers without expression onTrue onFalse⟩
  | describe | setVersion | addMetadata | addStep | addTransition | block | build => cases asks

/-- Whatever steps a draft has, the search for the next number whose id is free ends, in one way, and
the id that it finds is an identifier that no step has.  A call for a step without an id adds a step
with that id, or it is refused for something else than an id and changes nothing. -/
theorem freshId_is_found (draft : Draft) :
    (∃ number, draft.freshId = numberedId number ∧
      ∀ found, draft.Search (draft.steps.length + 1) found ↔ found = number) ∧
    draft.freshId ∉ draft.stepIds ∧ isIdentifier draft.freshId = true ∧
    ∀ call id, call.optionalId? = some id → id.truthy = false →
      match draft.call call with
      | (.ok _, next) => ∃ step, step.id = draft.freshId ∧ next.steps = draft.steps ++ [step]
      | (.error failure, next) => failure.blamesId = false ∧ next = draft := by
  refine ⟨?_, draft.freshId_not_mem, draft.isIdentifier_freshId, ?_⟩
  · obtain ⟨number, search, same⟩ := draft.search_freshId
    exact ⟨number, same, fun found => ⟨fun again => again.unique search, fun same => same ▸ search⟩⟩
  · intro call id asks without
    obtain ⟨changed, settles, numbers⟩ := draft.call_settles asks without
    rw [settles]
    cases changed with
    | ok next => exact numbers.adds next rfl
    | error failure => exact ⟨numbers.spares failure rfl, rfl⟩

/-- The number of the second step is taken by the first one. -/
theorem freshId_is_found_past_taken :
    let draft := ((begun "order").call (.addStep (.ofAction (.text "step_2") .null .null))).2
    let call : BuilderCall := .log (.text "packed") (.text "info") .null
    call.optionalId? = some .null ∧ Value.null.truthy = false ∧
      draft.stepIds = ["step_2"] ∧ draft.freshId = "step_3" ∧
      ∃ step, step.id = "step_3" ∧ (draft.call call).2.steps = draft.steps ++ [step] := by
  intro draft call
  have fresh : draft.freshId = "step_3" := by decide +kernel
  have accepted : (refusal? (draft.call call).1).isNone = true := by decide +kernel
  have added := (freshId_is_found draft).2.2.2 call .null rfl rfl
  refine ⟨rfl, rfl, rfl, fresh, ?_⟩
  rcases made : draft.call call with ⟨_ | _, next⟩
  · simp [made, refusal?] at accepted
  · rwa [made, fresh] at added

end Draft

end Workflow
