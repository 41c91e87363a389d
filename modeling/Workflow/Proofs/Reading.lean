import Workflow.Definition.Parser

/-!
# Definitions that were read

A definition that was read from a document has steps, each under its own id, which is an
identifier, and every transition leads from a declared step to a declared step.
-/

namespace Workflow

/-- A computation that goes on after another one succeeds if both do. -/
theorem then_eq_ok {ε α β : Type} {first : Except ε α} {next : α → Except ε β} {value : β} :
    first >>= next = .ok value ↔ ∃ middle, first = .ok middle ∧ next middle = .ok value := by
  cases first with
  | error error => simp [bind, Except.bind]
  | ok middle => simp [bind, Except.bind]

/-- A computation that goes on after another one fails with the failure of one of them. -/
theorem then_eq_error {ε α β : Type} {first : Except ε α} {next : α → Except ε β} {error : ε} :
    first >>= next = .error error ↔
      first = .error error ∨ ∃ middle, first = .ok middle ∧ next middle = .error error := by
  cases first with
  | error other => simp [bind, Except.bind]
  | ok middle => simp [bind, Except.bind]

@[simp] theorem mapError_eq_ok {ε ε' α : Type} {result : Except ε α} {change : ε → ε'} {value : α} :
    result.mapError change = .ok value ↔ result = .ok value := by
  cases result with
  | error cause =>
      constructor
      · rintro ⟨⟩
      · rintro ⟨⟩
  | ok given =>
      constructor
      · rintro ⟨⟩
        rfl
      · rintro ⟨⟩
        rfl

theorem mapError_eq_error {ε ε' α : Type} {result : Except ε α} {change : ε → ε'} {error : ε'} :
    result.mapError change = .error error ↔
      ∃ cause, result = .error cause ∧ change cause = error := by
  cases result with
  | error cause =>
      constructor
      · intro failed
        cases failed
        exact ⟨cause, rfl, rfl⟩
      · rintro ⟨_, ⟨⟩, rfl⟩
        rfl
  | ok given =>
      constructor
      · rintro ⟨⟩
      · rintro ⟨_, ⟨⟩, _⟩

/-- A computation fails, if it does, in a given way. -/
def FailsOnly {ε α : Type} (way : ε → Prop) (result : Except ε α) : Prop :=
  ∀ error, result = .error error → way error

namespace FailsOnly

variable {ε α β : Type} {way : ε → Prop}

theorem ok (value : α) : FailsOnly way (.ok value) :=
  nofun

theorem error {error : ε} (allowed : way error) : FailsOnly way (.error error : Except ε α) := by
  rintro _ ⟨⟩
  exact allowed

theorem bind {first : Except ε α} {next : α → Except ε β} (begins : FailsOnly way first)
    (goesOn : ∀ value, first = .ok value → FailsOnly way (next value)) :
    FailsOnly way (first >>= next) := by
  intro error fails
  rcases then_eq_error.mp fails with refused | ⟨value, given, refused⟩
  · exact begins error refused
  · exact goesOn value given error refused

theorem map {result : Except ε α} (fails : FailsOnly way result) (f : α → β) :
    FailsOnly way (f <$> result) := by
  cases result with
  | ok value => exact ok _
  | error cause => exact error (fails cause rfl)

theorem mapError {ε' : Type} {result : Except ε' α} {change : ε' → ε}
    (changes : ∀ cause, way (change cause)) : FailsOnly way (result.mapError change) := by
  intro error fails
  rcases mapError_eq_error.mp fails with ⟨cause, _, rfl⟩
  exact changes cause

end FailsOnly

theorem isIdentifier_ne_empty {name : String} (identifier : isIdentifier name = true) :
    name ≠ "" := by
  intro empty
  subst empty
  exact absurd identifier (by decide)

namespace Definition

/-- A definition that was read from a document, and not given as it is. -/
def IsRead (definition : Definition) : Prop :=
  ∃ source, parse source = .ok definition ∧ ∀ known, source ≠ .ready known

/-- Only a definition that is at hand is not decoded. -/
theorem decode_eq_inl {source : Source} {known : Definition}
    (decodes : source.decode = .ok (.inl known)) : source = .ready known := by
  simp only [Source.decode] at decodes
  split at decodes
  · cases decodes
    rfl
  · next text =>
      cases read : decodeText Json.read text text <;>
        simp [read, Functor.map, Except.map] at decodes
  · next data => cases read : decodeBytes data <;> simp [read, Functor.map, Except.map] at decodes
  · cases decodes
  · next data => cases read : decodeBytes data <;> simp [read, Functor.map, Except.map] at decodes

/-- Every document is read by way of a mapping. -/
theorem IsRead.exists_parseDict {definition : Definition} (read : definition.IsRead) :
    ∃ fields, parseDict fields = .ok definition := by
  rcases read with ⟨source, parses, unknown⟩
  rcases then_eq_ok.mp parses with ⟨decoded, decodes, parses⟩
  cases decoded with
  | inl known => exact absurd (decode_eq_inl decodes) (unknown known)
  | inr value =>
      cases value with
      | dict fields =>
          refine ⟨fields, ?_⟩
          simp only at parses
          split at parses
          · next parsed reads =>
              cases parses
              exact reads
          · split at parses <;> cases parses
          · cases parses
          · cases parses
      | _ => cases parses

/-! ## Steps -/

/-- A step under a key is read with an identifier, before the steps after it. -/
theorem keyedSteps_cons {entry : Scalar × Value} {rest : List (Scalar × Value)}
    {steps : List (String × Dict)} (reads : keyedSteps (entry :: rest) = .ok steps) :
    ∃ id fields others, entry.1 = .text id ∧ isIdentifier id = true ∧
      (entry.2.opened = .null ∧ fields = [] ∨ entry.2.opened = .dict fields) ∧
      (∀ nested, Dict.field? fields "id" = some nested → nested.equals (.text id) = true) ∧
      keyedSteps rest = .ok others ∧ steps = (id, withoutId fields) :: others := by
  obtain ⟨key, value⟩ := entry
  simp only [keyedSteps, refuse, bind, Except.bind] at reads
  repeat' split at reads
  all_goals cases reads
  all_goals
    refine ⟨_, _, _, rfl, ‹isIdentifier _ = true›, ?_, ?_, ‹keyedSteps rest = .ok _›, rfl⟩
    · simp [‹value.opened = _›]
    · intro nested found
      simp_all

/-- A step of a list is read with an identifier, before the steps after it. -/
theorem listedSteps_cons {index : Nat} {seen : List String} {item : Value} {rest : List Value}
    {steps : List (String × Dict)} (reads : listedSteps index seen (item :: rest) = .ok steps) :
    ∃ (fields : Dict) (id : String) (others : List (String × Dict)),
      item.opened = .dict fields ∧ fields.field? "id" = some (.text id) ∧
      isIdentifier id = true ∧ id ∉ seen ∧
      listedSteps (index + 1) (seen ++ [id]) rest = .ok others ∧
        steps = (id, withoutId fields) :: others := by
  simp only [listedSteps, refuse, bind, Except.bind] at reads
  repeat' split at reads
  all_goals cases reads
  exact ⟨_, _, _, ‹item.opened = _›, ‹Dict.field? _ "id" = _›, ‹isIdentifier _ = true›,
    by simpa using ‹¬ seen.contains _ = true›, ‹listedSteps _ _ rest = .ok _›, rfl⟩

theorem keyedSteps_ids {entries : List (Scalar × Value)} {steps : List (String × Dict)}
    (reads : keyedSteps entries = .ok steps) :
    ∀ entry ∈ steps, isIdentifier entry.1 = true := by
  induction entries generalizing steps with
  | nil =>
      cases reads
      simp
  | cons entry rest ih =>
      obtain ⟨id, fields, others, _, identifier, _, _, following, rfl⟩ := keyedSteps_cons reads
      intro found member
      cases List.mem_cons.mp member with
      | inl first => simpa only [first] using identifier
      | inr later => exact ih following found later

theorem listedSteps_ids {index : Nat} {seen : List String} {items : List Value}
    {steps : List (String × Dict)} (reads : listedSteps index seen items = .ok steps) :
    ∀ entry ∈ steps, isIdentifier entry.1 = true := by
  induction items generalizing index seen steps with
  | nil =>
      cases reads
      simp
  | cons item rest ih =>
      obtain ⟨fields, id, others, _, _, identifier, _, following, rfl⟩ := listedSteps_cons reads
      intro found member
      cases List.mem_cons.mp member with
      | inl first => simpa only [first] using identifier
      | inr later => exact ih following found later

theorem keyedSteps_eq_nil {entries : List (Scalar × Value)}
    (reads : keyedSteps entries = .ok []) : entries = [] := by
  cases entries with
  | nil => rfl
  | cons entry rest =>
      obtain ⟨_, _, _, _, _, _, _, _, nonempty⟩ := keyedSteps_cons reads
      cases nonempty

theorem listedSteps_eq_nil {index : Nat} {seen : List String} {items : List Value}
    (reads : listedSteps index seen items = .ok []) : items = [] := by
  cases items with
  | nil => rfl
  | cons item rest =>
      obtain ⟨_, _, _, _, _, _, _, _, nonempty⟩ := listedSteps_cons reads
      cases nonempty

/-- The steps of a document are some, and their ids are identifiers. -/
theorem parseStepIds_spec {fields : Dict} {steps : List (String × Dict)}
    (reads : parseStepIds fields = .ok steps) :
    steps ≠ [] ∧ ∀ entry ∈ steps, isIdentifier entry.1 = true := by
  unfold parseStepIds at reads
  simp only at reads
  split at reads
  · cases reads
  · cases reads
  · cases reads
  · cases reads
  · next items nonempty _ =>
      refine ⟨?_, listedSteps_ids reads⟩
      rintro rfl
      exact nonempty (listedSteps_eq_nil reads)
  · next entries nonempty _ =>
      refine ⟨?_, keyedSteps_ids reads⟩
      rintro rfl
      exact nonempty (keyedSteps_eq_nil reads)
  · cases reads

theorem parseStep_id {id : String} {fields : Dict} {step : Step}
    (reads : parseStep id fields = .ok step) : step.id = id := by
  simp only [parseStep] at reads
  rcases then_eq_ok.mp reads with ⟨_, _, reads⟩
  rcases then_eq_ok.mp reads with ⟨_, _, reads⟩
  rcases then_eq_ok.mp reads with ⟨_, _, reads⟩
  rcases then_eq_ok.mp reads with ⟨_, _, reads⟩
  cases reads
  rfl

/-- Every step stands under its own id, in the order of the document. -/
theorem parseSteps_spec {raw : List (String × Dict)} {steps : List (String × Step)}
    (reads : parseSteps raw = .ok steps) :
    steps.map (·.1) = raw.map (·.1) ∧ ∀ entry ∈ steps, entry.2.id = entry.1 := by
  induction raw generalizing steps with
  | nil =>
      cases reads
      simp
  | cons entry rest ih =>
      simp only [parseSteps] at reads
      rcases then_eq_ok.mp reads with ⟨step, first, reads⟩
      rcases then_eq_ok.mp reads with ⟨others, following, reads⟩
      cases reads
      rcases ih following with ⟨keys, ids⟩
      refine ⟨by simp [keys], ?_⟩
      intro found member
      cases List.mem_cons.mp member with
      | inl same => simpa only [same] using parseStep_id first
      | inr later => exact ids found later

/-! ## Transitions -/

theorem parseEndpoint_mem {index : Nat} {known : List String} {fields : Dict}
    {endpoint id : String} (reads : parseEndpoint index known fields endpoint = .ok id) :
    id ∈ known := by
  simp only [parseEndpoint] at reads
  split at reads
  · split at reads
    · cases reads
    · split at reads
      · next declared =>
          cases reads
          simpa using declared
      · cases reads
  · cases reads

theorem parseTransition_spec {index : Nat} {known : List String} {value : Value}
    {transition : Transition} (reads : parseTransition index known value = .ok transition) :
    transition.source ∈ known ∧ transition.target ∈ known := by
  simp only [parseTransition] at reads
  split at reads
  · rcases then_eq_ok.mp reads with ⟨source, leaves, reads⟩
    rcases then_eq_ok.mp reads with ⟨target, leads, reads⟩
    have ends : transition.source = source ∧ transition.target = target := by
      simp only [refuse, bind, Except.bind] at reads
      repeat' split at reads
      all_goals
        cases reads
        try exact ⟨rfl, rfl⟩
    rw [ends.1, ends.2]
    exact ⟨parseEndpoint_mem leaves, parseEndpoint_mem leads⟩
  · cases reads

theorem parseTransitionItems_spec {index : Nat} {known : List String} {items : List Value}
    {transitions : List Transition}
    (reads : parseTransitionItems index known items = .ok transitions) :
    ∀ transition ∈ transitions, transition.source ∈ known ∧ transition.target ∈ known := by
  induction items generalizing index transitions with
  | nil =>
      cases reads
      simp
  | cons item rest ih =>
      simp only [parseTransitionItems] at reads
      rcases then_eq_ok.mp reads with ⟨first, leads, reads⟩
      rcases then_eq_ok.mp reads with ⟨others, following, reads⟩
      cases reads
      intro found member
      cases List.mem_cons.mp member with
      | inl same => simpa only [same] using parseTransition_spec leads
      | inr later => exact ih following found later

theorem parseTransitions_spec {fields : Dict} {known : List String}
    {transitions : List Transition} (reads : parseTransitions fields known = .ok transitions) :
    ∀ transition ∈ transitions, transition.source ∈ known ∧ transition.target ∈ known := by
  simp only [parseTransitions] at reads
  split at reads
  · cases reads
    simp
  · cases reads
    simp
  · exact parseTransitionItems_spec reads
  · cases reads

/-! ## Definitions -/

/-- A definition whose steps stand under their own ids, which are identifiers, and whose transitions
lead from declared steps to declared steps. -/
structure WellFormed (definition : Definition) : Prop where
  steps_ne_nil : definition.steps ≠ []
  id_of_mem_steps : ∀ entry ∈ definition.steps, entry.2.id = entry.1
  isIdentifier_of_mem_stepIds : ∀ id ∈ definition.stepIds, isIdentifier id = true
  declared_of_mem_transitions : ∀ transition ∈ definition.transitions,
    transition.source ∈ definition.stepIds ∧ transition.target ∈ definition.stepIds

/-- Every step stands under its own id. -/
def Keyed (definition : Definition) : Prop :=
  ∀ entry ∈ definition.steps, entry.2.id = entry.1

theorem Keyed.id_of_step? {definition : Definition} (keyed : definition.Keyed)
    {key : String} {step : Step} (found : definition.step? key = some step) : step.id = key := by
  rcases List.lookup_eq_some_iff.mp found with ⟨before, after, equal, _⟩
  have member : (key, step) ∈ definition.steps := by
    rw [equal]
    simp
  exact keyed _ member

theorem mem_stepIds_of_step? {definition : Definition} {key : String} {step : Step}
    (found : definition.step? key = some step) : key ∈ definition.stepIds := by
  obtain ⟨before, after, equal, _⟩ := List.lookup_eq_some_iff.mp found
  simp [stepIds, equal]

theorem exists_step? {definition : Definition} {key : String}
    (declared : key ∈ definition.stepIds) : definition.step? key ≠ none := by
  intro missing
  obtain ⟨entry, member, rfl⟩ := List.mem_map.mp declared
  have differs := List.lookup_eq_none_iff.mp missing entry member
  simp at differs

/-- A definition is read from a mapping exactly if each of its parts is. -/
theorem parseDict_eq_ok {fields : Dict} {definition : Definition} :
    parseDict fields = .ok definition ↔
      ∃ raw metadata, parseName fields = .ok definition.name ∧
        parseVersion fields = .ok definition.version ∧ parseMetadata fields = .ok metadata ∧
        parseStepIds fields = .ok raw ∧ parseSteps raw = .ok definition.steps ∧
        parseTransitions fields definition.stepIds = .ok definition.transitions ∧
        textKeyed "metadata" metadata = .ok definition.metadata := by
  simp only [parseDict, parseHeader]
  constructor
  · intro reads
    obtain ⟨_, heads, reads⟩ := then_eq_ok.mp reads
    obtain ⟨name, names, heads⟩ := then_eq_ok.mp heads
    obtain ⟨version, versions, heads⟩ := then_eq_ok.mp heads
    obtain ⟨metadata, notes, heads⟩ := then_eq_ok.mp heads
    obtain ⟨raw, ids, heads⟩ := then_eq_ok.mp heads
    cases heads
    obtain ⟨steps, readsSteps, reads⟩ := then_eq_ok.mp reads
    obtain ⟨transitions, readsTransitions, reads⟩ := then_eq_ok.mp reads
    obtain ⟨entries, keyed, reads⟩ := then_eq_ok.mp reads
    cases reads
    exact ⟨raw, metadata, names, versions, notes, ids, readsSteps, readsTransitions, keyed⟩
  · intro parts
    obtain ⟨raw, metadata, names, versions, notes, ids, steps, transitions, keyed⟩ := parts
    simp only [stepIds] at transitions
    simp only [names, versions, notes, ids, steps, transitions, keyed, bind, Except.bind]

/-- What is read is well formed. -/
theorem IsRead.wellFormed {definition : Definition} (read : definition.IsRead) :
    definition.WellFormed := by
  obtain ⟨fields, reads⟩ := read.exists_parseDict
  obtain ⟨raw, _, _, _, _, stepIds, readsSteps, readsTransitions, _⟩ := parseDict_eq_ok.mp reads
  obtain ⟨nonempty, identifiers⟩ := parseStepIds_spec stepIds
  obtain ⟨keys, ids⟩ := parseSteps_spec readsSteps
  refine ⟨?_, ids, ?_, parseTransitions_spec readsTransitions⟩
  · intro empty
    apply nonempty
    simpa [empty] using keys.symm
  · intro id member
    have member : id ∈ definition.steps.map (·.1) := member
    rw [keys] at member
    obtain ⟨entry, inside, rfl⟩ := List.mem_map.mp member
    exact identifiers entry inside

/-- A definition with steps has an entry, and it is one of them. -/
theorem exists_entry {definition : Definition} (nonempty : definition.steps ≠ []) :
    ∃ entry ∈ definition.steps, definition.entry? = some entry.2 := by
  unfold entry?
  cases found : (definition.steps.map (·.2)).find?
      fun step => !(definition.transitions.map (·.target)).contains step.id with
  | some step =>
      rcases List.mem_map.mp (List.mem_of_find?_eq_some found) with ⟨entry, member, rfl⟩
      exact ⟨entry, member, by simp only [found, Option.some_or]⟩
  | none =>
      rcases List.exists_cons_of_ne_nil nonempty with ⟨entry, rest, equal⟩
      refine ⟨entry, by simp [equal], ?_⟩
      simp only [found, Option.none_or]
      rw [equal]
      rfl

/-! ## A definition of one step -/

/-- The document of a definition whose one step can be undone. -/
def reversibleDocument : Value :=
  let step := Dict.ofFields
    [("id", .text "only"), ("action", .text "act"), ("compensation", .text "undo")]
  .dict (Dict.ofFields [("name", .text "reversible"), ("steps", .list [.dict step])])

/-- A definition whose one step can be undone. -/
def reversible : Definition :=
  ⟨"reversible", "1.0",
    [("only", { Step.named "only" with action := some "act", compensation := some "undo" })],
    [], []⟩

theorem isRead_reversible : reversible.IsRead := by
  refine ⟨.document reversibleDocument, rfl, ?_⟩
  intro known same
  cases same

end Definition

end Workflow
