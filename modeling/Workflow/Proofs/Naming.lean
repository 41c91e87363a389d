import Mathlib.Data.List.Nodup
import Mathlib.Data.List.TakeWhile
import Workflow.Proofs.Building

/-!
# Names that are accepted

The names of workflows and the ids of steps are letters, digits, underscores and hyphens that begin
with a letter, and timeouts are digits and a unit, with one gap: a line break is let through behind
any of them.  The texts that are accepted are those of the form and those with a line break behind
the form, and all of these.  Names and ids are accepted from a document or by a draft, which has its
own check of timeouts.
-/

namespace Workflow

/-! ## Forms of texts -/

/-- A letter, and behind it letters, digits, underscores and hyphens. -/
def IsName (cs : List Char) : Prop :=
  ∃ first rest, cs = first :: rest ∧ first.isAlpha = true ∧
    ∀ c ∈ rest, c.isAlphanum = true ∨ c = '_' ∨ c = '-'

/-- Digits, and behind them a unit of time. -/
def IsSpan (cs : List Char) : Prop :=
  ∃ digits unit, cs = digits ++ [unit] ∧ digits ≠ [] ∧
    (∀ c ∈ digits, Text.isDecimalDigit c = true) ∧ unit ∈ ['s', 'm', 'h', 'd']

/-- A text of a form, or one with a line break behind the form. -/
def UpToBreak (form : List Char → Prop) (text : String) : Prop :=
  form text.toList ∨ ∃ cs, text.toList = cs ++ ['\n'] ∧ form cs

/-! ## Identifiers -/

theorem isPlainLetter_eq_isAlpha (c : Char) : isPlainLetter c = c.isAlpha := by
  have upper : ('A' ≤ c && c ≤ 'Z') = c.isUpper := (Bool.decide_and _ _).symm
  rw [isPlainLetter, upper]
  exact Bool.or_comm _ _

theorem isIdentifierChar_iff {c : Char} :
    isIdentifierChar c = true ↔ c.isAlphanum = true ∨ c = '_' ∨ c = '-' := by
  have same : isIdentifierChar c = (c.isAlphanum || c = '_' || c = '-') := by
    rw [isIdentifierChar, isPlainLetter_eq_isAlpha, Char.isAlphanum]
    rfl
  simp [same, or_assoc]

/-- The characters behind the first one are looked at without a line break at the end. -/
theorem isIdentifier_of_toList {name : String} {first : Char} {rest : List Char}
    (characters : name.toList = first :: rest) :
    isIdentifier name = true ↔ first.isAlpha = true ∧
      ∀ c ∈ if rest.getLast? = some '\n' then rest.dropLast else rest,
        c.isAlphanum = true ∨ c = '_' ∨ c = '-' := by
  simp only [isIdentifier, characters, Bool.and_eq_true, List.all_eq_true,
    isPlainLetter_eq_isAlpha, isIdentifierChar_iff]

theorem isIdentifier_iff {name : String} : isIdentifier name = true ↔ UpToBreak IsName name := by
  constructor
  · intro identifier
    cases characters : name.toList with
    | nil => simp [isIdentifier, characters] at identifier
    | cons first rest =>
        obtain ⟨letter, others⟩ := (isIdentifier_of_toList characters).mp identifier
        by_cases broken : rest.getLast? = some '\n'
        · rw [if_pos broken] at others
          have whole := List.dropLast_append_getLast? '\n' broken
          refine .inr ⟨first :: rest.dropLast, ?_, first, _, rfl, letter, others⟩
          rw [characters, List.cons_append, whole]
        · rw [if_neg broken] at others
          exact .inl ⟨first, rest, characters, letter, others⟩
  · rintro (⟨first, rest, characters, letter, others⟩ |
      ⟨_, characters, first, rest, rfl, letter, others⟩)
    · refine (isIdentifier_of_toList characters).mpr ⟨letter, ?_⟩
      have unbroken : rest.getLast? ≠ some '\n' := by
        intro broken
        exact absurd (others '\n' (List.mem_of_getLast? broken)) (by decide)
      rwa [if_neg unbroken]
    · rw [List.cons_append] at characters
      refine (isIdentifier_of_toList characters).mpr ⟨letter, ?_⟩
      simpa using others

/-! ## Timeouts -/

theorem isSome_unitSeconds?_iff {unit : Char} :
    (unitSeconds? unit).isSome = true ↔ unit ∈ ['s', 'm', 'h', 'd'] := by
  constructor
  · intro known
    unfold unitSeconds? at known
    split at known <;> simp_all
  · intro known
    simp only [List.mem_cons, List.not_mem_nil, or_false] at known
    rcases known with rfl | rfl | rfl | rfl <;> rfl

theorem filterMap_digitValue?_eq_nil {digits : List Char}
    (decimal : ∀ c ∈ digits, Text.isDecimalDigit c = true) :
    digits.filterMap Text.digitValue? = [] ↔ digits = [] := by
  rw [List.filterMap_eq_nil_iff]
  constructor
  · intro valueless
    cases digits with
    | nil => rfl
    | cons c rest =>
        have placed := decimal c List.mem_cons_self
        rw [Text.isDecimalDigit, valueless c List.mem_cons_self] at placed
        cases placed
  · rintro rfl c member
    cases member

/-- The digits of a timeout go on as far as they can, and then one unit is left, or a unit and a line
break. -/
theorem isTimeout_parts {timeout : String} :
    isTimeout timeout = true ↔ timeout.toList.takeWhile Text.isDecimalDigit ≠ [] ∧
      ∃ unit ∈ ['s', 'm', 'h', 'd'],
        timeout.toList.dropWhile Text.isDecimalDigit = [unit] ∨
          timeout.toList.dropWhile Text.isDecimalDigit = [unit, '\n'] := by
  have decimal : ∀ c ∈ timeout.toList.takeWhile Text.isDecimalDigit,
      Text.isDecimalDigit c = true := fun c member => List.mem_takeWhile_imp member
  simp only [isTimeout, timeoutParts?, Number.takeDigits, List.isEmpty_iff,
    filterMap_digitValue?_eq_nil decimal]
  split
  · next missing => simp [missing]
  · next present =>
      rw [ne_eq, and_iff_right present]
      constructor
      · intro known
        split at known
        · next unit rest =>
            exact ⟨unit, isSome_unitSeconds?_iff.mp (by simpa using known), .inl rest⟩
        · next unit rest =>
            exact ⟨unit, isSome_unitSeconds?_iff.mp (by simpa using known), .inr rest⟩
        · cases known
      · rintro ⟨unit, known, rest | rest⟩
        · simpa [rest] using isSome_unitSeconds?_iff.mpr known
        · simpa [rest] using isSome_unitSeconds?_iff.mpr known

theorem isTimeout_of_toList {timeout : String} {digits rest : List Char} {unit : Char}
    (characters : timeout.toList = digits ++ unit :: rest) (nonempty : digits ≠ [])
    (decimal : ∀ c ∈ digits, Text.isDecimalDigit c = true) (known : unit ∈ ['s', 'm', 'h', 'd'])
    (closed : rest = [] ∨ rest = ['\n']) : isTimeout timeout = true := by
  have stops : Text.isDecimalDigit unit = false := by
    simp only [List.mem_cons, List.not_mem_nil, or_false] at known
    rcases known with rfl | rfl | rfl | rfl <;> rfl
  have taken : timeout.toList.takeWhile Text.isDecimalDigit = digits := by
    rw [characters, List.takeWhile_append_of_pos decimal]
    simp [stops]
  have left : timeout.toList.dropWhile Text.isDecimalDigit = unit :: rest := by
    rw [characters, List.dropWhile_append_of_pos decimal]
    simp [stops]
  rw [isTimeout_parts, taken, left]
  refine ⟨nonempty, unit, known, ?_⟩
  simpa using closed

theorem isTimeout_iff {timeout : String} : isTimeout timeout = true ↔ UpToBreak IsSpan timeout := by
  constructor
  · rw [isTimeout_parts]
    rintro ⟨nonempty, unit, known, rest⟩
    have whole := List.takeWhile_append_dropWhile (p := Text.isDecimalDigit) (l := timeout.toList)
    have decimal : ∀ c ∈ timeout.toList.takeWhile Text.isDecimalDigit,
        Text.isDecimalDigit c = true := fun c member => List.mem_takeWhile_imp member
    rcases rest with rest | rest
    · rw [rest] at whole
      exact .inl ⟨_, unit, whole.symm, nonempty, decimal, known⟩
    · rw [rest, ← List.singleton_append, ← List.append_assoc] at whole
      exact .inr ⟨_, whole.symm, _, unit, rfl, nonempty, decimal, known⟩
  · rintro (⟨digits, unit, characters, nonempty, decimal, known⟩ |
      ⟨_, characters, digits, unit, rfl, nonempty, decimal, known⟩)
    · exact isTimeout_of_toList characters nonempty decimal known (.inl rfl)
    · rw [List.append_assoc] at characters
      exact isTimeout_of_toList characters nonempty decimal known (.inr rfl)

/-! ## What documents are accepted with -/

namespace Definition

/-- A definition of one step, which has a timeout. -/
def ofTimeout (name id timeout : String) : Definition :=
  ⟨name, "1.0", [(id, { Step.named id with timeout := some timeout })], [], []⟩

section OneStep

variable {name id timeout : String}

theorem wellFormed_ofTimeout (identified : isIdentifier id = true) :
    (ofTimeout name id timeout).WellFormed where
  steps_ne_nil := List.cons_ne_nil _ _
  id_of_mem_steps := List.forall_mem_singleton.mpr rfl
  isIdentifier_of_mem_stepIds := List.forall_mem_singleton.mpr identified
  declared_of_mem_transitions := List.forall_mem_nil _

theorem regular_ofTimeout (named : isIdentifier name = true) (timed : isTimeout timeout = true) :
    (ofTimeout name id timeout).Regular where
  name := named
  version := by
    show Text.isBlankText "1.0" = false
    decide
  steps := by
    refine List.forall_mem_singleton.mpr ⟨?_, ?_, ?_, Int.le_refl 0, List.forall_mem_nil _⟩
    · rintro _ ⟨⟩
    · rintro _ ⟨⟩
    · rintro _ ⟨⟩
      exact timed
  transitions := List.forall_mem_nil _

/-- Whatever identifiers and timeout are asked for, there is a document with them. -/
theorem isRead_ofTimeout (named : isIdentifier name = true) (identified : isIdentifier id = true)
    (timed : isTimeout timeout = true) : (ofTimeout name id timeout).IsRead := by
  have distinct : (ofTimeout name id timeout).stepIds.Nodup := List.nodup_singleton id
  have json : (ofTimeout name id timeout).isJson = true := by
    have attempts : isReadableInteger 0 = true := by decide
    simp [ofTimeout, isJson, Step.named, Value.holdJson, attempts]
  refine ⟨_, parse_document_toDict (wellFormed_ofTimeout identified) (regular_ofTimeout named timed)
    distinct json, ?_⟩
  rintro _ ⟨⟩

end OneStep

theorem exists_isRead_name_iff {text : String} :
    (∃ definition : Definition, definition.IsRead ∧ definition.name = text) ↔
      UpToBreak IsName text := by
  rw [← isIdentifier_iff]
  constructor
  · rintro ⟨definition, read, rfl⟩
    exact read.regular.name
  · intro identifier
    have timed : isTimeout "5m" = true := rfl
    exact ⟨_, isRead_ofTimeout identifier identifier timed, rfl⟩

theorem exists_isRead_id_iff {text : String} :
    (∃ definition : Definition, definition.IsRead ∧
        ∃ entry ∈ definition.steps, entry.1 = text ∨ entry.2.id = text) ↔
      UpToBreak IsName text := by
  rw [← isIdentifier_iff]
  constructor
  · rintro ⟨definition, read, entry, member, same⟩
    rw [read.wellFormed.id_of_mem_steps entry member, or_self] at same
    rw [← same]
    exact read.wellFormed.isIdentifier_of_mem_stepIds entry.1 (List.mem_map_of_mem member)
  · intro identifier
    have timed : isTimeout "5m" = true := rfl
    exact ⟨_, isRead_ofTimeout identifier identifier timed, _,
      List.mem_singleton_self _, .inl rfl⟩

theorem exists_isRead_timeout_iff {text : String} :
    (∃ definition : Definition, definition.IsRead ∧
        ∃ entry ∈ definition.steps, entry.2.timeout = some text) ↔
      UpToBreak IsSpan text := by
  rw [← isTimeout_iff]
  constructor
  · rintro ⟨definition, read, entry, member, same⟩
    exact (read.regular.steps entry member).timeout text same
  · intro timed
    have named : isIdentifier "w" = true := rfl
    exact ⟨_, isRead_ofTimeout named named timed, _, List.mem_singleton_self _, rfl⟩

end Definition

/-! ## What drafts are accepted with -/

namespace Draft

/-- A draft that nothing was added to. -/
def begun (name : String) : Draft :=
  ⟨name, .text "1.0", .null, [], [], [], []⟩

theorem named_text {text : String} (identifier : isIdentifier text = true) :
    named (.text text) = .ok (begun text) := by
  simp [named, begun, Definition.isBlankText_of_isIdentifier identifier, identifier]

theorem exists_named_iff {text : String} :
    (∃ value draft, named value = .ok draft ∧ draft.name = text) ↔ UpToBreak IsName text := by
  rw [← isIdentifier_iff]
  constructor
  · rintro ⟨value, draft, begins, rfl⟩
    exact (named_eq_ok begins).1
  · intro identifier
    exact ⟨.text text, _, named_text identifier, rfl⟩

/-- Every step that is added has an identifier. -/
theorem admits_identifiers : Admits fun steps => ∀ step ∈ steps, isIdentifier step.id = true := by
  intro draft request step asks identifiers
  obtain ⟨_, _, identifier, _⟩ := stepOf_eq_ok asks
  exact List.forall_mem_append.mpr ⟨identifiers, List.forall_mem_singleton.mpr identifier⟩

/-- A step of an identifier alone can be added to a new draft. -/
theorem callAll_addStep {text : String} (identifier : isIdentifier text = true) :
    ((begun text).callAll [.addStep (.ofAction (.text text) .null .null)]).2.steps =
      [⟨text, 0, none, [], none, [], none⟩] := by
  have ids : (begun text).checkId (.text text) = .ok text := by
    simp [checkId, begun, identifier]
  have asks : (begun text).stepOf (.ofAction (.text text) .null .null) =
      .ok ⟨text, 0, none, [], none, [], none⟩ := by
    simp only [stepOf, StepRequest.ofAction, ids, bind, Except.bind]
    rfl
  simp only [callAll, call, settle, addStep, asks, bind, Except.bind]
  rfl

theorem exists_added_iff {text : String} :
    (∃ value draft calls, named value = .ok draft ∧
        ∃ step ∈ (draft.callAll calls).2.steps, step.id = text) ↔
      UpToBreak IsName text := by
  rw [← isIdentifier_iff]
  constructor
  · rintro ⟨value, draft, calls, begins, step, member, rfl⟩
    have none : ∀ step ∈ draft.steps, isIdentifier step.id = true := by
      simp [(named_eq_ok begins).2.1]
    exact admits_identifiers.callAll draft calls none step member
  · intro identifier
    refine ⟨.text text, begun text, [.addStep (.ofAction (.text text) .null .null)],
      named_text identifier, ?_⟩
    rw [callAll_addStep identifier]
    exact ⟨_, List.mem_singleton_self _, rfl⟩

end Draft

/-! ## Names and timeouts with a line break -/

/-- The texts that are accepted as the name of a workflow or as the id of a step, from documents or by
drafts, or as a timeout of a document, are those of the form with or without a line break behind it. -/
theorem accepted_iff (text : String) :
    ((∃ definition : Definition, definition.IsRead ∧ definition.name = text) ↔
      UpToBreak IsName text) ∧
    ((∃ definition : Definition, definition.IsRead ∧
        ∃ entry ∈ definition.steps, entry.1 = text ∨ entry.2.id = text) ↔
      UpToBreak IsName text) ∧
    ((∃ definition : Definition, definition.IsRead ∧
        ∃ entry ∈ definition.steps, entry.2.timeout = some text) ↔
      UpToBreak IsSpan text) ∧
    ((∃ value draft, Draft.named value = .ok draft ∧ draft.name = text) ↔
      UpToBreak IsName text) ∧
    ((∃ value draft calls, Draft.named value = .ok draft ∧
        ∃ step ∈ (draft.callAll calls).2.steps, step.id = text) ↔
      UpToBreak IsName text) :=
  ⟨Definition.exists_isRead_name_iff, Definition.exists_isRead_id_iff,
    Definition.exists_isRead_timeout_iff, Draft.exists_named_iff, Draft.exists_added_iff⟩

theorem not_isName_of_break {cs : List Char} (broken : '\n' ∈ cs) : ¬ IsName cs := by
  rintro ⟨first, rest, rfl, letter, others⟩
  rcases List.mem_cons.mp broken with rfl | inside
  · revert letter
    decide
  · exact absurd (others '\n' inside) (by decide)

theorem not_isSpan_of_break {cs : List Char} (broken : '\n' ∈ cs) : ¬ IsSpan cs := by
  rintro ⟨digits, unit, rfl, _, decimal, known⟩
  rcases List.mem_append.mp broken with inside | last
  · exact absurd (decimal '\n' inside) (by decide)
  · rw [← List.mem_singleton.mp last] at known
    revert known
    decide

/-- A document whose names and timeout end in line breaks is read, and a draft is begun under such a
name. -/
theorem not_only_names :
    let step := Value.ofFields [("id", .text "pack\n"), ("timeout", .text "5m\n")]
    let document := Value.ofFields [("name", .text "order\n"), ("steps", .list [step])]
    Definition.parse (.document document) = .ok (.ofTimeout "order\n" "pack\n" "5m\n") ∧
      ¬ IsName "order\n".toList ∧ ¬ IsName "pack\n".toList ∧ ¬ IsSpan "5m\n".toList ∧
      Draft.named (.text "order\n") = .ok (.begun "order\n") :=
  ⟨rfl, not_isName_of_break (by decide), not_isName_of_break (by decide),
    not_isSpan_of_break (by decide), Draft.named_text rfl⟩

end Workflow
