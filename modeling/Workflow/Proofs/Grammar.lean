import Mathlib.Data.List.Forall2
import Workflow.Proofs.Document

/-!
# The grammar of definitions

What a mapping has to hold for a definition to be read from it, said field by field and without the
reader: optional fields may be missing or null, steps are listed or stand under their ids, and
transitions lead between declared steps.  The reader accepts exactly these mappings.
-/

namespace Workflow

/-- A field that is missing, or null, or holds what is accepted. -/
def Dict.Optional (fields : Dict) (name : String) (accepts : Value → Prop) : Prop :=
  ∀ value, fields.field? name = some value → value = .null ∨ accepts value

namespace Definition

/-- A text that is not blank. -/
def IsWord (value : Value) : Prop :=
  ∃ content, value = .text content ∧ Text.isBlankText content = false

/-- A mapping. -/
def IsMapping (value : Value) : Prop :=
  ∃ entries, value = .dict entries

/-- A text that has the form of a timeout. -/
def IsTimeout (value : Value) : Prop :=
  ∃ content, value = .text content ∧ isTimeout content = true

/-- A whole number that is not negative. -/
def IsCount (value : Value) : Prop :=
  ∃ count, value = .int count ∧ 0 ≤ count

/-- A text that is not blank, or a list of such texts. -/
def AreConditions (value : Value) : Prop :=
  IsWord value ∨ ∃ items, value = .list items ∧ ∀ item ∈ items, IsWord item

/-- The fields that make a step. -/
structure StepFields (fields : Dict) : Prop where
  action : fields.Optional "action" IsWord
  compensation : fields.Optional "compensation" IsWord
  timeout : fields.Optional "timeout" IsTimeout
  retryAttempts : fields.Optional "retry_attempts" IsCount
  parameters :
    fields.Optional (if fields.hasField "parameters" then "parameters" else "config") IsMapping
  conditions : fields.Optional "conditions" AreConditions

/-- An item of a list declares a step by its id. -/
def Lists (item : Value) (step : String × Dict) : Prop :=
  item = .dict step.2 ∧ step.2.field? "id" = some (.text step.1)

/-- An entry of a mapping declares a step by its key; an id among the fields has to be the same. -/
def Keys (entry : Scalar × Value) (step : String × Dict) : Prop :=
  entry.1 = .text step.1 ∧
    (entry.2 = .null ∧ step.2 = [] ∨
      entry.2 = .dict step.2 ∧ ∀ nested, step.2.field? "id" = some nested → nested = .text step.1)

/-- The steps that a value declares, each by its id and its fields. -/
inductive Declares : Value → List (String × Dict) → Prop where
  | listed {items : List Value} {steps : List (String × Dict)} :
      items ≠ [] → List.Forall₂ Lists items steps → (steps.map (·.1)).Nodup →
      Declares (.list items) steps
  | keyed {entries : Dict} {steps : List (String × Dict)} :
      entries ≠ [] → List.Forall₂ Keys entries steps → Declares (.dict entries) steps

/-- A mapping that makes a transition between some of the known steps. -/
def IsTransition (known : List String) (value : Value) : Prop :=
  ∃ fields : Dict, value = .dict fields ∧
    (∃ source ∈ known, fields.field? "from" = some (.text source)) ∧
    (∃ target ∈ known, fields.field? "to" = some (.text target)) ∧
    fields.Optional "condition" IsWord ∧ fields.Optional "metadata" IsMapping

/-- A list of transitions between some of the known steps. -/
def AreTransitions (known : List String) (value : Value) : Prop :=
  ∃ items, value = .list items ∧ ∀ item ∈ items, IsTransition known item

/-- A mapping from which a definition can be read. -/
structure Admissible (raw : Dict) : Prop where
  name : ∃ name, raw.field? "name" = some (.text name) ∧ isIdentifier name = true
  version : raw.Optional "version" IsWord
  metadata : raw.Optional "metadata" IsMapping
  graph : ∃ declaring steps, raw.field? "steps" = some declaring ∧ Declares declaring steps ∧
    (∀ step ∈ steps, isIdentifier step.1 = true ∧ StepFields step.2) ∧
    raw.Optional "transitions" (AreTransitions (steps.map (·.1)))

/-! ## Names -/

theorem isPlainLetter_iff {c : Char} :
    isPlainLetter c = true ↔
      97 ≤ c.toNat ∧ c.toNat ≤ 122 ∨ 65 ≤ c.toNat ∧ c.toNat ≤ 90 := by
  simp only [isPlainLetter, Bool.or_eq_true, Bool.and_eq_true, decide_eq_true_eq, Char.le_def,
    UInt32.le_iff_toNat_le, Char.toNat_val]
  rfl

theorem isBlank_of_isPlainLetter {c : Char} (letter : isPlainLetter c = true) :
    Text.isBlank c = false := by
  rw [isPlainLetter_iff] at letter
  simp [Text.isBlank, Text.inRanges, Text.blankRanges]
  omega

theorem isBlankText_of_isIdentifier {name : String} (identifier : isIdentifier name = true) :
    Text.isBlankText name = false := by
  simp only [isIdentifier] at identifier
  split at identifier
  · cases identifier
  · next first rest characters =>
      simp only [Bool.and_eq_true] at identifier
      simp [Text.isBlankText, characters, isBlank_of_isPlainLetter identifier.1]

theorem parseName_eq_ok {raw : Dict} {name : String} :
    parseName raw = .ok name ↔
      raw.field? "name" = some (.text name) ∧ isIdentifier name = true := by
  constructor
  · intro reads
    unfold parseName at reads
    split at reads
    · cases reads
    · cases reads
    · cases reads
    · next given found =>
        split at reads
        · cases reads
        · split at reads
          · cases reads
          · next identifier =>
              cases reads
              exact ⟨found, by simpa using identifier⟩
    · cases reads
  · intro given
    obtain ⟨found, identifier⟩ := given
    have nonempty := isIdentifier_ne_empty identifier
    have filled := isBlankText_of_isIdentifier identifier
    simp [parseName, found, filled, identifier]

/-! ## Optional fields -/

/-- A field is optional if its reader takes nothing and null, and accepts of all other values those
that are accepted. -/
theorem optional_iff {α : Type} {fields : Dict} {name : String} {accepts : Value → Prop}
    {result : Parsed α}
    (absent : fields.field? name = none ∨ fields.field? name = some .null →
      ∃ given, result = .ok given)
    (held : ∀ value, value ≠ .null → fields.field? name = some value →
      ((∃ given, result = .ok given) ↔ accepts value)) :
    (∃ given, result = .ok given) ↔ fields.Optional name accepts := by
  cases found : fields.field? name with
  | none =>
      constructor
      · intro _ value holds
        rw [found] at holds
        cases holds
      · intro _
        exact absent (.inl found)
  | some value =>
      by_cases null : value = .null
      · constructor
        · intro _ other holds
          rw [found] at holds
          cases holds
          exact .inl null
        · intro _
          exact absent (.inr (null ▸ found))
      · rw [held value null found]
        constructor
        · intro accepted other holds
          rw [found] at holds
          cases holds
          exact .inr accepted
        · intro accepted
          exact (accepted value found).resolve_left null

@[simp] theorem not_exists_refuse {α : Type} (fault : DefinitionFault) :
    ¬ ∃ given, (refuse fault : Parsed α) = .ok given := by
  intro reads
  obtain ⟨_, reads⟩ := reads
  cases reads

theorem isWord_iff {value : Value} : isWord value = true ↔ IsWord value := by
  cases value with
  | scalar held => cases held <;> simp [isWord, IsWord]
  | _ => simp [isWord, IsWord]

theorem exists_parseVersion {raw : Dict} :
    (∃ version, parseVersion raw = .ok version) ↔ raw.Optional "version" IsWord := by
  apply optional_iff
  · intro absent
    cases absent with
    | inl missing => simp [parseVersion, missing]
    | inr null => simp [parseVersion, null]
  · intro value filled found
    cases value with
    | scalar held =>
        cases held with
        | null => exact absurd rfl filled
        | text content =>
            cases blank : Text.isBlankText content <;>
              simp [parseVersion, found, blank, IsWord]
        | _ => simp [parseVersion, found, IsWord]
    | _ => simp [parseVersion, found, IsWord]

theorem exists_parseMetadata {raw : Dict} :
    (∃ entries, parseMetadata raw = .ok entries) ↔ raw.Optional "metadata" IsMapping := by
  apply optional_iff
  · intro absent
    cases absent with
    | inl missing => simp [parseMetadata, missing]
    | inr null => simp [parseMetadata, null]
  · intro value filled found
    cases value with
    | scalar held =>
        cases held with
        | null => exact absurd rfl filled
        | _ => simp [parseMetadata, found, IsMapping]
    | _ => simp [parseMetadata, found, IsMapping]

theorem keyedByText_of_parseMetadata {raw metadata : Dict} (json : Value.holdJson raw = true)
    (reads : parseMetadata raw = .ok metadata) : metadata.KeyedByText := by
  unfold parseMetadata at reads
  split at reads
  · cases reads
    exact Value.keyedByText_of_holdJson rfl
  · cases reads
    exact Value.keyedByText_of_holdJson rfl
  · next found =>
      cases reads
      exact Value.keyedByText_of_holdJson (Value.isJson_of_field? json found)
  · cases reads

/-! ## Steps -/

section Fields

variable {id : String} {fields : Dict}

theorem exists_parseReference {field : String} :
    (∃ action, parseReference id fields field = .ok action) ↔ fields.Optional field IsWord := by
  apply optional_iff
  · intro absent
    cases absent with
    | inl missing => simp [parseReference, missing]
    | inr null => simp [parseReference, null]
  · intro value filled found
    cases value with
    | scalar held =>
        cases held with
        | null => exact absurd rfl filled
        | text content =>
            cases blank : Text.isBlankText content <;>
              simp [parseReference, found, isWord, blank, IsWord]
        | _ => simp [parseReference, found, IsWord]
    | _ => simp [parseReference, found, IsWord]

theorem exists_parseTimeout :
    (∃ timeout, parseTimeout id fields = .ok timeout) ↔ fields.Optional "timeout" IsTimeout := by
  apply optional_iff
  · intro absent
    cases absent with
    | inl missing => simp [parseTimeout, missing]
    | inr null => simp [parseTimeout, null]
  · intro value filled found
    cases value with
    | scalar held =>
        cases held with
        | null => exact absurd rfl filled
        | text content =>
            cases form : isTimeout content <;> simp [parseTimeout, found, form, IsTimeout]
        | _ => simp [parseTimeout, found, IsTimeout]
    | _ => simp [parseTimeout, found, IsTimeout]

theorem exists_parseRetryAttempts (json : Value.holdJson fields = true) :
    (∃ attempts, parseRetryAttempts id fields = .ok attempts) ↔
      fields.Optional "retry_attempts" IsCount := by
  apply optional_iff
  · intro absent
    cases absent with
    | inl missing => simp [parseRetryAttempts, missing]
    | inr null => simp [parseRetryAttempts, null]
  · intro value filled found
    cases value with
    | scalar held =>
        cases held with
        | null => exact absurd rfl filled
        | int count =>
            have shown : (Scalar.int count).isShown = true := Value.isJson_of_field? json found
            by_cases negative : count < 0
            · simp [parseRetryAttempts, found, negative, IsCount]
            · simp [parseRetryAttempts, found, negative, shown, IsCount]
              omega
        | _ => simp [parseRetryAttempts, found, IsCount]
    | _ => simp [parseRetryAttempts, found, IsCount]

/-- The name under which the parameters of a step stand. -/
theorem parameters_or_config :
    (fields.field? "parameters").or (fields.field? "config") =
      fields.field? (if fields.hasField "parameters" then "parameters" else "config") := by
  cases found : fields.field? "parameters" with
  | none => simp [Dict.hasField, found]
  | some value => simp [Dict.hasField, found]

theorem exists_parseParameters :
    (∃ parameters, parseParameters id fields = .ok parameters) ↔
      fields.Optional (if fields.hasField "parameters" then "parameters" else "config")
        IsMapping := by
  apply optional_iff
  · intro absent
    rw [← parameters_or_config] at absent
    cases absent with
    | inl missing => simp [parseParameters, missing]
    | inr null => simp [parseParameters, null]
  · intro value filled found
    rw [← parameters_or_config] at found
    cases value with
    | scalar held =>
        cases held with
        | null => exact absurd rfl filled
        | _ => simp [parseParameters, found, IsMapping]
    | _ => simp [parseParameters, found, IsMapping]

theorem exists_parseConditionItems {items : List Value} :
    (∃ conditions, parseConditionItems id items = .ok conditions) ↔
      ∀ item ∈ items, IsWord item := by
  induction items with
  | nil => simp [parseConditionItems]
  | cons item rest ih =>
      rw [List.forall_mem_cons, ← ih]
      constructor
      · intro reads
        obtain ⟨conditions, reads⟩ := reads
        simp only [parseConditionItems] at reads
        split at reads
        · split at reads
          · next word =>
              obtain ⟨_, _, reads⟩ := then_eq_ok.mp reads
              obtain ⟨others, later, _⟩ := then_eq_ok.mp reads
              exact ⟨isWord_iff.mp word, others, later⟩
          · cases reads
        · cases reads
      · intro words
        obtain ⟨⟨content, rfl, filled⟩, others, later⟩ := words
        exact ⟨content :: others, by simp [parseConditionItems, isWord, filled, later]; rfl⟩

theorem exists_parseConditions :
    (∃ conditions, parseConditions id fields = .ok conditions) ↔
      fields.Optional "conditions" AreConditions := by
  apply optional_iff
  · intro absent
    cases absent with
    | inl missing => simp [parseConditions, missing]
    | inr null => simp [parseConditions, null]
  · intro value filled found
    cases value with
    | scalar held =>
        cases held with
        | null => exact absurd rfl filled
        | text content =>
            simp only [parseConditions, found, exists_parseConditionItems, AreConditions]
            simp
        | _ => simp [parseConditions, found, AreConditions, IsWord]
    | list items =>
        simp only [parseConditions, found, exists_parseConditionItems, AreConditions]
        simp [IsWord]
    | _ => simp [parseConditions, found, AreConditions, IsWord]

theorem exists_then {α β : Type} {first : Parsed α} {next : α → Parsed β} :
    (∃ given, first >>= next = .ok given) ↔
      ∃ middle, first = .ok middle ∧ ∃ given, next middle = .ok given := by
  constructor
  · intro reads
    obtain ⟨given, reads⟩ := reads
    obtain ⟨middle, before, after⟩ := then_eq_ok.mp reads
    exact ⟨middle, before, given, after⟩
  · intro reads
    obtain ⟨middle, before, given, after⟩ := reads
    exact ⟨given, then_eq_ok.mpr ⟨middle, before, after⟩⟩

theorem exists_parseStepHead (json : Value.holdJson fields = true) :
    (∃ head, parseStepHead id fields = .ok head) ↔
      fields.Optional "action" IsWord ∧ fields.Optional "compensation" IsWord ∧
        fields.Optional "timeout" IsTimeout ∧ fields.Optional "retry_attempts" IsCount := by
  simp only [parseStepHead, exists_then]
  constructor
  · intro reads
    obtain ⟨action, acts, compensation, undoes, timeout, waits, attempts, retries, _⟩ := reads
    exact ⟨exists_parseReference.mp ⟨_, acts⟩, exists_parseReference.mp ⟨_, undoes⟩,
      exists_parseTimeout.mp ⟨_, waits⟩, (exists_parseRetryAttempts json).mp ⟨_, retries⟩⟩
  · intro accepted
    obtain ⟨action, compensation, timeout, attempts⟩ := accepted
    obtain ⟨action, acts⟩ := exists_parseReference.mpr action
    obtain ⟨compensation, undoes⟩ := exists_parseReference.mpr compensation
    obtain ⟨timeout, waits⟩ := exists_parseTimeout.mpr timeout
    obtain ⟨attempts, retries⟩ := (exists_parseRetryAttempts json).mpr attempts
    exact ⟨action, acts, compensation, undoes, timeout, waits, attempts, retries, _, rfl⟩

theorem keyedByText_of_parseParameters {parameters : Dict} (json : Value.holdJson fields = true)
    (reads : parseParameters id fields = .ok parameters) : parameters.KeyedByText := by
  unfold parseParameters at reads
  rw [parameters_or_config] at reads
  split at reads
  · cases reads
    exact Value.keyedByText_of_holdJson rfl
  · cases reads
    exact Value.keyedByText_of_holdJson rfl
  · next found =>
      cases reads
      exact Value.keyedByText_of_holdJson (Value.isJson_of_field? json found)
  · cases reads

theorem exists_parseStep (json : Value.holdJson fields = true) :
    (∃ step, parseStep id fields = .ok step) ↔ StepFields fields := by
  simp only [parseStep, exists_then]
  constructor
  · intro reads
    obtain ⟨head, heads, parameters, configures, conditions, guards, _⟩ := reads
    obtain ⟨action, compensation, timeout, attempts⟩ := (exists_parseStepHead json).mp ⟨_, heads⟩
    exact ⟨action, compensation, timeout, attempts, exists_parseParameters.mp ⟨_, configures⟩,
      exists_parseConditions.mp ⟨_, guards⟩⟩
  · intro accepted
    obtain ⟨head, heads⟩ := (exists_parseStepHead json).mpr
      ⟨accepted.action, accepted.compensation, accepted.timeout, accepted.retryAttempts⟩
    obtain ⟨parameters, configures⟩ := exists_parseParameters.mpr accepted.parameters
    obtain ⟨conditions, guards⟩ := exists_parseConditions.mpr accepted.conditions
    have keyed := keyedByText_of_parseParameters json configures
    exact ⟨head, heads, parameters, configures, conditions, guards, parameters,
      textKeyed_eq_ok keyed, _, rfl⟩

end Fields

theorem exists_parseSteps {raw : List (String × Dict)}
    (json : ∀ step ∈ raw, Value.holdJson step.2 = true) :
    (∃ steps, parseSteps raw = .ok steps) ↔ ∀ step ∈ raw, StepFields step.2 := by
  induction raw with
  | nil => simp [parseSteps]
  | cons step rest ih =>
      obtain ⟨id, fields⟩ := step
      rw [List.forall_mem_cons] at json
      rw [List.forall_mem_cons, ← ih json.2, ← exists_parseStep json.1]
      simp only [parseSteps, exists_then]
      constructor
      · intro reads
        obtain ⟨step, first, steps, later, _⟩ := reads
        exact ⟨⟨step, first⟩, steps, later⟩
      · intro reads
        obtain ⟨⟨step, first⟩, steps, later⟩ := reads
        exact ⟨step, first, steps, later, _, rfl⟩

/-! ## Declarations -/

/-- A declared step as it is read: its id and its other fields. -/
def declared (step : String × Dict) : String × Dict :=
  (step.1, withoutId step.2)

theorem listedSteps_cons_dict {fields : Dict} {id : String}
    (opened : (Value.dict fields).opened = .dict fields)
    (named : fields.field? "id" = some (.text id)) (identifier : isIdentifier id = true)
    {index : Nat} {seen : List String} (new : id ∉ seen) (rest : List Value) :
    listedSteps index seen (.dict fields :: rest) =
      (listedSteps (index + 1) (seen ++ [id]) rest).map (declared (id, fields) :: ·) := by
  have fresh : seen.contains id = false := by simpa using new
  simp only [listedSteps, opened, named, identifier, fresh, bind, Except.bind, if_true]
  cases listedSteps (index + 1) (seen ++ [id]) rest with
  | error => rfl
  | ok => rfl

theorem listedSteps_eq_ok {items : List Value} (json : Value.areJson items = true) {index : Nat}
    {seen : List String} {raw : List (String × Dict)} :
    listedSteps index seen items = .ok raw ↔
      ∃ steps, List.Forall₂ Lists items steps ∧ (∀ step ∈ steps, isIdentifier step.1 = true) ∧
        (steps.map (·.1)).Nodup ∧ (∀ step ∈ steps, step.1 ∉ seen) ∧ raw = steps.map declared := by
  induction items generalizing index seen raw with
  | nil =>
      constructor
      · intro reads
        cases reads
        exact ⟨[], .nil, by simp⟩
      · intro given
        obtain ⟨steps, lists, _, _, _, rfl⟩ := given
        cases lists
        rfl
  | cons item rest ih =>
      simp only [Value.areJson, Bool.and_eq_true] at json
      have opened := Value.opened_of_isJson json.1
      constructor
      · intro reads
        obtain ⟨fields, id, others, holds, named, identifier, new, later, rfl⟩ :=
          listedSteps_cons reads
        rw [opened] at holds
        obtain ⟨steps, lists, identifiers, distinct, apart, rfl⟩ := (ih json.2).mp later
        refine ⟨(id, fields) :: steps, .cons ⟨holds, named⟩ lists, ?_, ?_, ?_, rfl⟩
        · exact List.forall_mem_cons.mpr ⟨identifier, identifiers⟩
        · rw [List.map_cons, List.nodup_cons]
          refine ⟨?_, distinct⟩
          intro member
          obtain ⟨step, inside, same⟩ := List.mem_map.mp member
          exact apart step inside (by simp [same])
        · refine List.forall_mem_cons.mpr ⟨new, ?_⟩
          intro step inside earlier
          exact apart step inside (by simp [earlier])
      · intro given
        obtain ⟨steps, lists, identifiers, distinct, new, rfl⟩ := given
        cases lists with
        | @cons _ step _ steps lists others =>
          obtain ⟨id, fields⟩ := step
          obtain ⟨rfl, named⟩ := lists
          rw [List.map_cons, List.nodup_cons] at distinct
          rw [List.forall_mem_cons] at identifiers new
          have later : listedSteps (index + 1) (seen ++ [id]) rest = .ok (steps.map declared) := by
            refine (ih json.2).mpr ⟨steps, others, identifiers.2, distinct.2, ?_, rfl⟩
            intro step inside earlier
            cases List.mem_append.mp earlier with
            | inl before => exact new.2 step inside before
            | inr same =>
                exact distinct.1 (List.mem_map.mpr ⟨step, inside, List.mem_singleton.mp same⟩)
          rw [listedSteps_cons_dict opened named identifiers.1 new.1, later]
          rfl

theorem keyedSteps_cons_text {value : Value} {id : String} {fields : Dict}
    (opened : value.opened = value) (identifier : isIdentifier id = true)
    (holds : value = .null ∧ fields = [] ∨
      value = .dict fields ∧ ∀ nested, fields.field? "id" = some nested → nested = .text id)
    (rest : Dict) :
    keyedSteps ((.text id, value) :: rest) =
      (keyedSteps rest).map (declared (id, fields) :: ·) := by
  simp only [keyedSteps, opened, identifier, bind, Except.bind, if_true]
  cases holds with
  | inl null =>
      obtain ⟨rfl, rfl⟩ := null
      simp only [Dict.field?_nil]
      cases keyedSteps rest with
      | error => rfl
      | ok => rfl
  | inr mapping =>
      obtain ⟨rfl, nested⟩ := mapping
      cases found : Dict.field? fields "id" with
      | none =>
          simp only [found]
          cases keyedSteps rest with
          | error => rfl
          | ok => rfl
      | some inner =>
          have same : inner.equals (.text id) = true := Value.equals_text.mpr (nested inner found)
          simp only [found, same, if_true]
          cases keyedSteps rest with
          | error => rfl
          | ok => rfl

theorem keyedSteps_eq_ok {entries : Dict} (json : Value.holdJson entries = true)
    {raw : List (String × Dict)} :
    keyedSteps entries = .ok raw ↔
      ∃ steps, List.Forall₂ Keys entries steps ∧ (∀ step ∈ steps, isIdentifier step.1 = true) ∧
        raw = steps.map declared := by
  induction entries generalizing raw with
  | nil =>
      constructor
      · intro reads
        cases reads
        exact ⟨[], .nil, by simp⟩
      · intro given
        obtain ⟨steps, lists, _, rfl⟩ := given
        cases lists
        rfl
  | cons entry rest ih =>
      obtain ⟨key, value⟩ := entry
      obtain ⟨_, _, first, others⟩ := Value.holdJson_cons json
      have opened := Value.opened_of_isJson first
      constructor
      · intro reads
        obtain ⟨id, fields, others', named, identifier, holds, nested, later, rfl⟩ :=
          keyedSteps_cons reads
        rw [opened] at holds
        obtain ⟨steps, lists, identifiers, rfl⟩ := (ih others).mp later
        refine ⟨(id, fields) :: steps, .cons ⟨named, ?_⟩ lists, ?_, rfl⟩
        · cases holds with
          | inl null => exact .inl null
          | inr mapping =>
              refine .inr ⟨mapping, ?_⟩
              intro inner found
              exact Value.equals_text.mp (nested inner found)
        · exact List.forall_mem_cons.mpr ⟨identifier, identifiers⟩
      · intro given
        obtain ⟨steps, lists, identifiers, rfl⟩ := given
        cases lists with
        | @cons _ step _ steps keys lists =>
          obtain ⟨id, fields⟩ := step
          have named : key = .text id := keys.1
          subst named
          rw [List.forall_mem_cons] at identifiers
          have later := (ih others).mpr ⟨steps, lists, identifiers.2, rfl⟩
          rw [keyedSteps_cons_text opened identifiers.1 keys.2, later]
          rfl

/-! ## Transitions -/

section Ends

variable {known : List String} {index : Nat}

theorem exists_parseEndpoint (identifiers : ∀ id ∈ known, isIdentifier id = true) {fields : Dict}
    {endpoint : String} :
    (∃ id, parseEndpoint index known fields endpoint = .ok id) ↔
      ∃ id ∈ known, fields.field? endpoint = some (.text id) := by
  constructor
  · intro reads
    obtain ⟨id, reads⟩ := reads
    have member := parseEndpoint_mem reads
    refine ⟨id, member, ?_⟩
    unfold parseEndpoint at reads
    split at reads
    · next found =>
        split at reads
        · cases reads
        · split at reads
          · cases reads
            exact found
          · cases reads
    · cases reads
  · intro given
    obtain ⟨id, member, found⟩ := given
    have filled := isBlankText_of_isIdentifier (identifiers id member)
    exact ⟨id, by simp [parseEndpoint, found, filled, member]⟩

theorem exists_parseTransitionCondition {fields : Dict} :
    (∃ condition, parseTransitionCondition index fields = .ok condition) ↔
      fields.Optional "condition" IsWord := by
  apply optional_iff
  · intro absent
    cases absent with
    | inl missing => simp [parseTransitionCondition, missing]
    | inr null => simp [parseTransitionCondition, null]
  · intro value filled found
    cases value with
    | scalar held =>
        cases held with
        | null => exact absurd rfl filled
        | text content =>
            cases blank : Text.isBlankText content <;>
              simp [parseTransitionCondition, found, isWord, blank, IsWord]
        | _ => simp [parseTransitionCondition, found, IsWord]
    | _ => simp [parseTransitionCondition, found, IsWord]

theorem exists_transitionMetadata {fields : Dict} (json : Value.holdJson fields = true)
    {fault : DefinitionFault} {make : Dict → Transition} :
    (∃ transition, (do
        let metadata ← match Dict.field? fields "metadata" with
          | none | some .null => .ok []
          | some (.dict metadata) => .ok metadata
          | some _ => refuse fault
        let metadata ← textKeyed "metadata" metadata
        .ok (make metadata) : Parsed Transition) = .ok transition) ↔
      fields.Optional "metadata" IsMapping := by
  have empty : textKeyed "metadata" [] = .ok [] :=
    textKeyed_eq_ok (Value.keyedByText_of_holdJson rfl)
  apply optional_iff
  · intro absent
    cases absent with
    | inl missing => simp [missing, empty, bind, Except.bind]
    | inr null => simp [null, empty, bind, Except.bind]
  · intro value filled found
    cases value with
    | scalar held =>
        cases held with
        | null => exact absurd rfl filled
        | _ => simp [found, refuse, bind, Except.bind, IsMapping]
    | dict metadata =>
        have keyed := Value.keyedByText_of_holdJson (Value.isJson_of_field? json found)
        simp [found, textKeyed_eq_ok keyed, bind, Except.bind, IsMapping]
    | _ => simp [found, refuse, bind, Except.bind, IsMapping]

theorem exists_parseTransition (identifiers : ∀ id ∈ known, isIdentifier id = true) {value : Value}
    (json : value.isJson = true) :
    (∃ transition, parseTransition index known value = .ok transition) ↔
      IsTransition known value := by
  have opened := Value.opened_of_isJson json
  cases value with
  | dict fields =>
      have held : Value.holdJson fields = true := json
      simp only [parseTransition, opened, exists_then]
      constructor
      · intro reads
        obtain ⟨source, leaves, target, leads, condition, guards, metadata⟩ := reads
        exact ⟨fields, rfl, (exists_parseEndpoint identifiers).mp ⟨_, leaves⟩,
          (exists_parseEndpoint identifiers).mp ⟨_, leads⟩,
          exists_parseTransitionCondition.mp ⟨_, guards⟩,
          (exists_transitionMetadata held).mp metadata⟩
      · intro given
        obtain ⟨fields, ⟨⟩, source, target, condition, metadata⟩ := given
        obtain ⟨source, leaves⟩ := (exists_parseEndpoint identifiers).mpr source
        obtain ⟨target, leads⟩ := (exists_parseEndpoint identifiers).mpr target
        obtain ⟨condition, guards⟩ := exists_parseTransitionCondition.mpr condition
        exact ⟨source, leaves, target, leads, condition, guards,
          (exists_transitionMetadata held).mpr metadata⟩
  | _ => simp [parseTransition, opened, IsTransition]

theorem exists_parseTransitionItems (identifiers : ∀ id ∈ known, isIdentifier id = true)
    {items : List Value} (json : Value.areJson items = true) :
    (∃ transitions, parseTransitionItems index known items = .ok transitions) ↔
      ∀ item ∈ items, IsTransition known item := by
  induction items generalizing index with
  | nil => simp [parseTransitionItems]
  | cons item rest ih =>
      simp only [Value.areJson, Bool.and_eq_true] at json
      rw [List.forall_mem_cons]
      simp only [parseTransitionItems, exists_then]
      constructor
      · intro reads
        obtain ⟨transition, first, others, later, _⟩ := reads
        exact ⟨(exists_parseTransition identifiers json.1).mp ⟨_, first⟩, (ih json.2).mp ⟨_, later⟩⟩
      · intro given
        obtain ⟨transition, first⟩ := (exists_parseTransition identifiers json.1).mpr given.1
        obtain ⟨others, later⟩ := (ih json.2).mpr given.2
        exact ⟨transition, first, others, later, _, rfl⟩

theorem exists_parseTransitions (identifiers : ∀ id ∈ known, isIdentifier id = true) {raw : Dict}
    (json : Value.holdJson raw = true) :
    (∃ transitions, parseTransitions raw known = .ok transitions) ↔
      raw.Optional "transitions" (AreTransitions known) := by
  apply optional_iff
  · intro absent
    cases absent with
    | inl missing => simp [parseTransitions, missing]
    | inr null => simp [parseTransitions, null, Value.opened, Value.tied]
  · intro value filled found
    have inside := Value.isJson_of_field? json found
    have opened := Value.opened_of_isJson inside
    cases value with
    | scalar held =>
        cases held with
        | null => exact absurd rfl filled
        | _ => simp [parseTransitions, found, opened, AreTransitions]
    | list items =>
        simp [parseTransitions, found, opened, AreTransitions,
          exists_parseTransitionItems identifiers inside]
    | _ => simp [parseTransitions, found, opened, AreTransitions]

end Ends

/-! ## Definitions -/

theorem parseStepIds_eq_ok {raw : Dict} (json : Value.holdJson raw = true)
    {read : List (String × Dict)} :
    parseStepIds raw = .ok read ↔
      ∃ declaring steps, raw.field? "steps" = some declaring ∧ Declares declaring steps ∧
        (∀ step ∈ steps, isIdentifier step.1 = true) ∧ read = steps.map declared := by
  cases found : raw.field? "steps" with
  | none => simp [parseStepIds, found, refuse]
  | some declaring =>
      have inside := Value.isJson_of_field? json found
      have opened := Value.opened_of_isJson inside
      cases declaring with
      | list items =>
          cases items with
          | nil =>
              constructor
              · intro reads
                simp [parseStepIds, found, opened, refuse] at reads
              · intro given
                obtain ⟨_, _, ⟨⟩, declares, _⟩ := given
                cases declares with
                | listed nonempty => exact absurd rfl nonempty
          | cons item rest =>
              have reading : parseStepIds raw = listedSteps 0 [] (item :: rest) := by
                simp [parseStepIds, found, opened]
              rw [reading, listedSteps_eq_ok inside]
              constructor
              · intro given
                obtain ⟨steps, lists, identifiers, distinct, _, same⟩ := given
                exact ⟨_, steps, rfl, .listed (by simp) lists distinct, identifiers, same⟩
              · intro given
                obtain ⟨_, steps, ⟨⟩, declares, identifiers, same⟩ := given
                cases declares with
                | listed _ lists distinct =>
                    exact ⟨steps, lists, identifiers, distinct, by simp, same⟩
      | dict entries =>
          cases entries with
          | nil =>
              constructor
              · intro reads
                simp [parseStepIds, found, opened, refuse] at reads
              · intro given
                obtain ⟨_, _, ⟨⟩, declares, _⟩ := given
                cases declares with
                | keyed nonempty => exact absurd rfl nonempty
          | cons entry rest =>
              have reading : parseStepIds raw = keyedSteps (entry :: rest) := by
                simp [parseStepIds, found, opened]
              rw [reading, keyedSteps_eq_ok inside]
              constructor
              · intro given
                obtain ⟨steps, keys, identifiers, same⟩ := given
                exact ⟨_, steps, rfl, .keyed (by simp) keys, identifiers, same⟩
              · intro given
                obtain ⟨_, steps, ⟨⟩, declares, identifiers, same⟩ := given
                cases declares with
                | keyed _ keys => exact ⟨steps, keys, identifiers, same⟩
      | scalar held =>
          constructor
          · intro reads
            cases held <;> simp [parseStepIds, found, opened, refuse] at reads
          · intro given
            obtain ⟨_, _, ⟨⟩, declares, _⟩ := given
            cases declares
      | group | set | loop => cases inside

/-- The fields of a declared step are those of a JSON value. -/
theorem Declares.holdJson {declaring : Value} {steps : List (String × Dict)}
    (declares : Declares declaring steps) (json : declaring.isJson = true) :
    ∀ step ∈ steps, Value.holdJson step.2 = true := by
  cases declares with
  | @listed items _ _ lists =>
      replace json : Value.areJson items = true := json
      clear * - lists json
      induction lists with
      | nil => simp
      | cons lists _ ih =>
          simp only [Value.areJson, Bool.and_eq_true] at json
          rw [lists.1] at json
          exact List.forall_mem_cons.mpr ⟨json.1, ih json.2⟩
  | @keyed entries _ _ keys =>
      replace json : Value.holdJson entries = true := json
      clear * - keys json
      induction keys with
      | nil => simp
      | @cons entry _ _ _ keys _ ih =>
          obtain ⟨_, _, first, others⟩ := Value.holdJson_cons json
          refine List.forall_mem_cons.mpr ⟨?_, ih others⟩
          cases keys.2 with
          | inl null =>
              rw [null.2]
              rfl
          | inr mapping =>
              rw [mapping.1] at first
              exact first

/-- The id among the fields of a step is not read with the step. -/
theorem parseStep_withoutId (id : String) (fields : Dict) :
    parseStep id (withoutId fields) = parseStep id fields := by
  have kept : ∀ name, name ≠ "id" → (withoutId fields).field? name = fields.field? name :=
    fun name other => Dict.field?_erase other fields
  simp only [parseStep, parseStepHead, parseReference, parseTimeout, parseRetryAttempts,
    parseParameters, parseConditions, kept "action" (by decide), kept "compensation" (by decide),
    kept "timeout" (by decide), kept "retry_attempts" (by decide), kept "parameters" (by decide),
    kept "config" (by decide), kept "conditions" (by decide)]

theorem parseSteps_declared (steps : List (String × Dict)) :
    parseSteps (steps.map declared) = parseSteps steps := by
  induction steps with
  | nil => rfl
  | cons step rest ih => simp only [List.map_cons, parseSteps, declared, parseStep_withoutId, ih]

theorem exists_parseDict_iff {raw : Dict} (json : Value.holdJson raw = true) :
    (∃ definition, parseDict raw = .ok definition) ↔ Admissible raw := by
  simp only [parseDict_eq_ok]
  constructor
  · intro reads
    obtain ⟨definition, read, metadata, names, versions, notes, ids, steps, transitions, _⟩ := reads
    obtain ⟨declaring, declaredSteps, found, declares, identifiers, rfl⟩ :=
      (parseStepIds_eq_ok json).mp ids
    have fields := declares.holdJson (Value.isJson_of_field? json found)
    have keys : definition.stepIds = declaredSteps.map (·.1) := by
      have keys := (parseSteps_spec steps).1
      rw [List.map_map] at keys
      exact keys
    rw [parseSteps_declared] at steps
    rw [keys] at transitions
    have known : ∀ id ∈ declaredSteps.map (·.1), isIdentifier id = true := by
      intro id member
      obtain ⟨step, inside, rfl⟩ := List.mem_map.mp member
      exact identifiers step inside
    refine ⟨⟨_, parseName_eq_ok.mp names⟩, exists_parseVersion.mp ⟨_, versions⟩,
      exists_parseMetadata.mp ⟨_, notes⟩, declaring, declaredSteps, found, declares, ?_,
      (exists_parseTransitions known json).mp ⟨_, transitions⟩⟩
    intro step member
    exact ⟨identifiers step member, (exists_parseSteps fields).mp ⟨_, steps⟩ step member⟩
  · intro admissible
    obtain ⟨⟨name, named⟩, version, metadata, declaring, declaredSteps, found, declares, sound,
      transitions⟩ := admissible
    have fields := declares.holdJson (Value.isJson_of_field? json found)
    obtain ⟨version, versions⟩ := exists_parseVersion.mpr version
    obtain ⟨metadata, notes⟩ := exists_parseMetadata.mpr metadata
    have ids : parseStepIds raw = .ok (declaredSteps.map declared) :=
      (parseStepIds_eq_ok json).mpr
        ⟨declaring, declaredSteps, found, declares, fun step member => (sound step member).1, rfl⟩
    obtain ⟨steps, readsSteps⟩ := (exists_parseSteps fields).mpr
      fun step member => (sound step member).2
    have keys := (parseSteps_spec readsSteps).1
    rw [← keys] at transitions
    have known : ∀ id ∈ steps.map (·.1), isIdentifier id = true := by
      intro id member
      rw [keys] at member
      obtain ⟨step, inside, rfl⟩ := List.mem_map.mp member
      exact (sound step inside).1
    obtain ⟨transitions, readsTransitions⟩ := (exists_parseTransitions known json).mpr transitions
    have keyed := keyedByText_of_parseMetadata json notes
    exact ⟨⟨name, version, steps, transitions, metadata⟩, _, metadata,
      parseName_eq_ok.mpr named, versions, notes, ids, by rw [parseSteps_declared, readsSteps],
      readsTransitions, textKeyed_eq_ok keyed⟩

/-- A definition is read from a mapping of JSON values exactly when the mapping is admissible. -/
theorem exists_parse_iff {raw : Dict} (json : (Value.dict raw).isJson = true) :
    (∃ definition, parse (.document (.dict raw)) = .ok definition) ↔ Admissible raw := by
  have decodes : (Source.document (.dict raw)).decode = .ok (.inr (.dict raw)) := by
    simp [Source.decode, Value.opened_of_isJson json]
  rw [← exists_parseDict_iff json]
  simp only [parse, decodes, bind, Except.bind]
  cases parseDict raw with
  | ok definition => simp
  | error fault =>
      cases fault with
      | rule fault => cases shown : fault.shown.isShown <;> simp [shown]
      | keys problems => simp
      | unshown => simp

/-- A document with steps under their ids, one of which is null. -/
def orderDocument : Dict :=
  let reserve := Dict.ofFields
    [("id", .text "reserve"), ("action", .text "reserve"), ("timeout", .text "5m"),
      ("config", .dict (Dict.ofFields [("share", .float (.ofRatio false 1 2))])),
      ("retry_attempts", .int 3), ("conditions", .text "order.total > 0")]
  let ship := Dict.ofFields [("from", .text "reserve"), ("to", .text "ship"), ("metadata", .null)]
  Dict.ofFields
    [("name", .text "order"), ("version", .null),
      ("steps", .dict (Dict.ofFields [("reserve", .dict reserve), ("ship", .null)])),
      ("transitions", .list [.dict ship])]

theorem exists_parse_orderDocument :
    (Value.dict orderDocument).isJson = true ∧
      (∃ definition, parse (.document (.dict orderDocument)) = .ok definition) ∧
        Admissible orderDocument := by
  have json : (Value.dict orderDocument).isJson = true := by decide +kernel
  have reads : ∃ definition, parse (.document (.dict orderDocument)) = .ok definition := ⟨_, rfl⟩
  exact ⟨json, reads, (exists_parse_iff json).mp reads⟩

end Definition

end Workflow
