import Workflow.Proofs.Naming

/-!
# Drafts that are read

A draft and the reader of definitions each have their own checks.  For a draft that is made of
texts, numbers and mappings from texts they differ in little: its document is read exactly if there
are steps, the version, the actions and the compensations are not blank, and the transitions lead
from steps to steps.  Otherwise a rule is broken, and it can be told which.
-/

namespace Workflow

namespace Definition

/-- A part of a definition is read if it is good; if not, it breaks a rule that can be told. -/
inductive Decides {α : Type} (good : Prop) : Parsed α → Prop where
  | reads (holds : good) (value : α) : Decides good (.ok value)
  | refuses {fault : DefinitionFault} (fails : ¬ good) (shown : fault.shown.isShown = true) :
      Decides good (.error (.rule fault))

namespace Decides

variable {α β : Type} {good other : Prop}

theorem of_eq_ok {result : Parsed α} {value : α} (reads : result = .ok value) :
    Decides True result :=
  reads ▸ .reads trivial value

theorem congr {result : Parsed α} (decides : Decides good result) (same : good ↔ other) :
    Decides other result := by
  cases decides with
  | reads holds value => exact .reads (same.mp holds) value
  | refuses fails shown => exact .refuses (fun holds => fails (same.mpr holds)) shown

/-- Two parts are good if the first one is and the second one is, which is read only then. -/
theorem bind {first : Parsed α} {next : α → Parsed β} (begins : Decides good first)
    (continues : ∀ value, first = .ok value → good → Decides other (next value)) :
    Decides (good ∧ other) (first >>= next) := by
  cases begins with
  | reads holds value =>
      exact (continues value rfl holds).congr (and_iff_right holds).symm
  | refuses fails shown => exact .refuses (fun both => fails both.1) shown

/-- A part is good if the one is that is read before the rest, which is read in any case. -/
theorem then_reads {first : Parsed α} {next : α → Parsed β} (begins : Decides good first)
    (reads : ∀ value, ∃ result, next value = .ok result) : Decides good (first >>= next) := by
  cases begins with
  | reads holds value =>
      obtain ⟨result, same⟩ := reads value
      exact (of_eq_ok same).congr (iff_of_true trivial holds)
  | refuses fails shown => exact .refuses fails shown

end Decides

end Definition

/-! ## What stands in an opened document -/

section Opened

variable {fields found : Dict} {name : String}

theorem Dict.Opens.scalar {scalar : Scalar} (opens : fields.Opens found)
    (written : fields.field? name = some (.scalar scalar)) :
    found.field? name = some (.scalar scalar) := by
  obtain ⟨_, seen, opened⟩ := opens.held written
  rw [seen, opened.scalar_eq]

theorem Dict.Opens.text? {text? : Option String} (opens : fields.Opens found)
    (written : fields.field? name = text?.map .text) : found.field? name = text?.map .text := by
  cases text? with
  | none => exact opens.missing written
  | some text => exact opens.scalar written

theorem map_fst_tiedEntries (whole : Value) (levels : Nat) (entries : Dict) :
    (Value.tiedEntries whole levels entries).map (·.1) = entries.map (·.1) := by
  induction entries with
  | nil => rfl
  | cons entry rest ih => rw [Value.tiedEntries, List.map_cons, List.map_cons, ih]

/-- The keys of a mapping count for whether it is one from texts. -/
theorem Dict.keyedByText_of_map_fst {entries others : Dict}
    (same : others.map (·.1) = entries.map (·.1)) (keyed : entries.KeyedByText) :
    others.KeyedByText := by
  constructor
  · intro entry member
    have key : entry.1 ∈ entries.map (·.1) := same ▸ List.mem_map_of_mem member
    obtain ⟨own, inside, keys⟩ := List.mem_map.mp key
    rw [← keys]
    exact keyed.1 own inside
  · rw [same]
    exact keyed.2

/-- A key that a mapping has is not put into it again. -/
theorem Dict.map_fst_insert_old {entries : Dict} {name : String}
    (old : ∃ entry ∈ entries, entry.1 = .text name) (value : Value) :
    (entries.insert (.text name) value).map (·.1) = entries.map (·.1) := by
  induction entries with
  | nil => simp at old
  | cons entry rest ih =>
      by_cases same : entry.1.same (.text name) = true
      · simp [Dict.insert, same]
      · have later : ∃ entry ∈ rest, entry.1 = .text name := by
          obtain ⟨other, member, key⟩ := old
          cases List.mem_cons.mp member with
          | inl first => exact absurd (Scalar.same_text.mpr (first ▸ key)) same
          | inr inside => exact ⟨other, inside, key⟩
        simp [Dict.insert, same, ih later]

theorem Dict.KeyedByText.insert {entries : Dict} (keyed : entries.KeyedByText) (name : String)
    (value : Value) : (entries.insert (.text name) value).KeyedByText := by
  by_cases new : ∀ entry ∈ entries, entry.1 ≠ .text name
  · rw [Dict.insert_new new]
    constructor
    · exact List.forall_mem_append.mpr ⟨keyed.1, List.forall_mem_singleton.mpr ⟨name, rfl⟩⟩
    · rw [List.map_append, List.map_singleton, ← List.concat_eq_append]
      refine keyed.2.concat fun member => ?_
      obtain ⟨entry, inside, same⟩ := List.mem_map.mp member
      exact new entry inside same
  · refine Dict.keyedByText_of_map_fst (Dict.map_fst_insert_old ?_ value) keyed
    simpa using new

theorem Dict.KeyedByText.overlay {entries later : Dict} (keyed : entries.KeyedByText)
    (names : ∀ entry ∈ later, ∃ name, entry.1 = .text name) :
    (entries.overlay later).KeyedByText := by
  induction later generalizing entries with
  | nil => exact keyed
  | cons entry rest ih =>
      obtain ⟨⟨name, same⟩, others⟩ := List.forall_mem_cons.mp names
      have inserted : (entries.insert entry.1 entry.2).KeyedByText := same ▸ keyed.insert name _
      exact ih inserted others

/-- A mapping from texts is opened as one. -/
theorem Value.Opens.keyedByText {value : Value} (opens : (Value.dict fields).Opens value)
    (keyed : fields.KeyedByText) : ∃ seen : Dict, value = .dict seen ∧ seen.KeyedByText := by
  induction opens with
  | refl => exact ⟨fields, rfl, keyed⟩
  | @tied other whole levels _ _ ih =>
      obtain ⟨seen, rfl, keyed⟩ := ih
      exact ⟨_, rfl, Dict.keyedByText_of_map_fst (map_fst_tiedEntries whole _ seen) keyed⟩

end Opened

/-! ## Steps -/

/-- Whether a value is a text of nothing but white space. -/
def Value.isBlank : Value → Bool
  | .text content => Text.isBlankText content
  | _ => false

namespace DraftStep

/-- A step whose fields passed the checks of a draft and are of the kinds they are declared with. -/
structure Typed (step : DraftStep) : Prop where
  id : isIdentifier step.id = true
  retryAttempts : 0 ≤ step.retryAttempts ∧ step.retryAttempts ≤ largestRetryAttempts
  action : ∃ name : Option String, step.action = name.map .text
  parameters : step.parameters.KeyedByText
  timeout : ∀ text ∈ step.timeout, isTimeout text = true
  conditions : ∀ condition ∈ step.conditions, Text.isBlankText condition = false
  compensation : ∃ name : Option String, step.compensation = name.map .text

/-- Neither the action nor the compensation of a step is blank. -/
structure Refers (step : DraftStep) : Prop where
  action : ∀ action ∈ step.action, action.isBlank = false
  compensation : ∀ action ∈ step.compensation, action.isBlank = false

theorem field?_toDict (step : DraftStep) (name : String) :
    step.toDict.field? name =
      if name = "id" then some (.text step.id)
      else if name = "retry_attempts" then some (.int step.retryAttempts)
      else if name = "action" then step.action
      else if name = "parameters" then
        if step.parameters.isEmpty then none else some (.dict step.parameters)
      else if name = "timeout" then step.timeout.map .text
      else if name = "conditions" then
        if step.conditions.isEmpty then none else some (.ofTexts step.conditions)
      else if name = "compensation" then step.compensation
      else none := by
  have pair : [("id", Value.text step.id), ("retry_attempts", Value.int step.retryAttempts)] =
      [("id", Value.text step.id)] ++ [("retry_attempts", Value.int step.retryAttempts)] := rfl
  simp only [toDict, Dict.field?_ofFields, List.lookup_append, pair, lookup_singleton,
    lookup_toList, lookup_unless, lookup_given]
  by_cases id : name = "id"
  · simp [id]
  by_cases retry : name = "retry_attempts"
  · simp [retry]
  by_cases action : name = "action"
  · simp [action]
  by_cases parameters : name = "parameters"
  · cases empty : step.parameters.isEmpty <;> simp [parameters]
  by_cases timeout : name = "timeout"
  · simp [timeout]
  by_cases conditions : name = "conditions"
  · cases empty : step.conditions.isEmpty <;> simp [conditions]
  simp [id, retry, action, parameters, timeout, conditions]

end DraftStep

namespace Definition

section Steps

variable {step : DraftStep} {fields : Dict} {id : String}

theorem parseReference_decides {field : String} {reference : Option String}
    (found : fields.field? field = reference.map .text) :
    Decides (∀ action ∈ reference.map Value.text, action.isBlank = false)
      (parseReference id fields field) := by
  cases reference with
  | none =>
      apply (Decides.of_eq_ok (parseReference_eq_ok found nofun)).congr
      simp
  | some name =>
      cases blank : Text.isBlankText name with
      | false =>
          have reads : parseReference id fields field = .ok (some name) :=
            parseReference_eq_ok found (by simpa using blank)
          apply (Decides.of_eq_ok reads).congr
          simp [Value.isBlank, blank]
      | true =>
          have refuses : parseReference id fields field =
              refuse (.invalidStep id (field ++ " must be a non-empty string") field) := by
            simp [parseReference, found, isWord, blank]
          rw [refuses]
          exact .refuses (by simp [Value.isBlank, blank]) rfl

theorem parseRetryAttempts_found {attempts : Int}
    (found : fields.field? "retry_attempts" = some (.int attempts))
    (few : 0 ≤ attempts ∧ attempts ≤ largestRetryAttempts) :
    parseRetryAttempts id fields = .ok attempts := by
  obtain ⟨nonneg, few⟩ := few
  obtain ⟨count, rfl⟩ := Int.eq_ofNat_of_zero_le nonneg
  have each : ∀ count < 11, (Scalar.int (count : Nat)).isShown = true := by decide
  have shown := each count (by rw [largestRetryAttempts] at few; omega)
  have counted : ¬ (count : Int) < 0 := Int.not_lt.mpr nonneg
  simp [parseRetryAttempts, found, counted, shown]

theorem parseParameters_opened (typed : step.Typed) (opens : step.toDict.Opens fields) :
    ∃ parameters : Dict, parseParameters id fields = .ok parameters ∧
      parameters.KeyedByText := by
  have config : fields.field? "config" = none := opens.missing (step.field?_toDict "config")
  have written := step.field?_toDict "parameters"
  cases empty : step.parameters.isEmpty with
  | true =>
      have absent : fields.field? "parameters" = none :=
        opens.missing (by simpa [empty] using written)
      exact ⟨[], by simp [parseParameters, absent, config], Dict.keyedByText_nil⟩
  | false =>
      obtain ⟨_, found, opened⟩ := opens.held (by simpa [empty] using written)
      obtain ⟨parameters, rfl, keyed⟩ := opened.keyedByText typed.parameters
      exact ⟨parameters, by simp [parseParameters, found], keyed⟩

theorem parseConditions_typed (typed : step.Typed) (opens : step.toDict.Opens fields) :
    parseConditions id fields = .ok step.conditions := by
  apply parseConditions_eq_ok _ typed.conditions
  have written := step.field?_toDict "conditions"
  cases empty : step.conditions.isEmpty with
  | true =>
      have absent := opens.missing (by simpa [empty] using written)
      simpa using absent
  | false =>
      obtain ⟨_, found, opened⟩ := opens.held (by simpa [empty] using written)
      rw [found, opened.texts_eq]
      rfl

/-- A step of a draft is read if what it refers to is not blank. -/
theorem parseStep_decides (typed : step.Typed) (opens : step.toDict.Opens fields) :
    Decides step.Refers (parseStep id fields) := by
  obtain ⟨action, actions⟩ := typed.action
  obtain ⟨compensation, compensations⟩ := typed.compensation
  have actionFound : fields.field? "action" = action.map .text :=
    opens.text? ((step.field?_toDict "action").trans actions)
  have compensationFound : fields.field? "compensation" = compensation.map .text :=
    opens.text? ((step.field?_toDict "compensation").trans compensations)
  have timeout : parseTimeout id fields = .ok step.timeout :=
    parseTimeout_eq_ok (opens.text? (step.field?_toDict "timeout")) typed.timeout
  have attempts : parseRetryAttempts id fields = .ok step.retryAttempts :=
    parseRetryAttempts_found (opens.scalar (step.field?_toDict "retry_attempts"))
      typed.retryAttempts
  have conditions : parseConditions id fields = .ok step.conditions :=
    parseConditions_typed typed opens
  obtain ⟨parameters, mapping, keyed⟩ : ∃ parameters : Dict,
    parseParameters id fields = .ok parameters ∧ parameters.KeyedByText :=
      parseParameters_opened typed opens
  have head : Decides step.Refers (parseStepHead id fields) := by
    suffices whole : Decides ((∀ action ∈ step.action, action.isBlank = false) ∧
        ∀ action ∈ step.compensation, action.isBlank = false) (parseStepHead id fields) from
      whole.congr ⟨fun both => ⟨both.1, both.2⟩, fun refers => ⟨refers.action, refers.compensation⟩⟩
    rw [actions, compensations]
    refine (parseReference_decides actionFound).bind fun _ _ _ => ?_
    refine (parseReference_decides compensationFound).then_reads fun _ => ?_
    refine exists_then.mpr ⟨step.timeout, timeout, ?_⟩
    exact exists_then.mpr ⟨step.retryAttempts, attempts, _, rfl⟩
  refine head.then_reads fun _ => ?_
  refine exists_then.mpr ⟨parameters, mapping, ?_⟩
  refine exists_then.mpr ⟨step.conditions, conditions, ?_⟩
  exact exists_then.mpr ⟨parameters, textKeyed_eq_ok keyed, _, rfl⟩

/-- What is read for a step of a draft: its id, and its other fields as they are opened. -/
def Gives (step : DraftStep) (raw : String × Dict) : Prop :=
  raw.1 = step.id ∧ ∃ fields, step.toDict.Opens fields ∧ raw.2 = withoutId fields

theorem listedSteps_gives {steps : List DraftStep} {items : List Value} {index : Nat}
    {seen : List String}
    (opens : List.Forall₂ Value.Opens (steps.map fun step => .dict step.toDict) items)
    (identifiers : ∀ step ∈ steps, isIdentifier step.id = true)
    (distinct : (seen ++ steps.map (·.id)).Nodup) :
    ∃ raw, listedSteps index seen items = .ok raw ∧ List.Forall₂ Gives steps raw := by
  induction steps generalizing items index seen with
  | nil =>
      cases opens
      exact ⟨[], rfl, .nil⟩
  | cons step rest ih =>
      rw [List.map_cons] at opens
      obtain ⟨item, others, first, later, rfl⟩ := List.forall₂_cons_left_iff.mp opens
      obtain ⟨identifier, identifiers⟩ := List.forall_mem_cons.mp identifiers
      rw [List.map_cons, List.append_cons] at distinct
      have new : seen.contains step.id = false := by
        have apart := (List.nodup_append.mp (List.nodup_append.mp distinct).1).2.2
        rw [List.contains_eq_mem, decide_eq_false_iff_not]
        exact fun member => apart step.id member step.id (List.mem_singleton_self _) rfl
      obtain ⟨fields, same, opened⟩ := first.opened_dict
      have named : Dict.field? fields "id" = some (.text step.id) := opened.scalar step.field?_id
      obtain ⟨raw, lists, gives⟩ := @ih others (index + 1) (seen ++ [step.id]) later identifiers
        distinct
      refine ⟨(step.id, withoutId fields) :: raw, ?_, .cons ⟨rfl, fields, opened, rfl⟩ gives⟩
      simp only [listedSteps, same, named, identifier, new, lists, bind, Except.bind, if_true]
      rfl

/-- The steps of a draft are read if what they refer to is not blank. -/
theorem parseSteps_decides {steps : List DraftStep} {raw : List (String × Dict)}
    (typed : ∀ step ∈ steps, step.Typed) (gives : List.Forall₂ Gives steps raw) :
    Decides (∀ step ∈ steps, step.Refers) (parseSteps raw) := by
  induction gives with
  | nil => exact .reads (List.forall_mem_nil _) []
  | @cons step entry steps raw first _ ih =>
      obtain ⟨id, fields⟩ := entry
      obtain ⟨rfl, fields, opens, rfl⟩ := first
      obtain ⟨typedFirst, typed⟩ := List.forall_mem_cons.mp typed
      rw [parseSteps, parseStep_withoutId, List.forall_mem_cons]
      refine (parseStep_decides typedFirst opens).bind fun _ _ _ => ?_
      exact (ih typed).then_reads fun _ => ⟨_, rfl⟩

end Steps

end Definition

/-! ## Transitions -/

namespace DraftTransition

/-- A transition whose fields are of the kinds they are declared with, and whose condition passed
the check of a draft. -/
structure Typed (link : DraftTransition) : Prop where
  source : ∃ id, link.source = .text id
  target : ∃ id, link.target = .text id
  condition : ∀ text ∈ link.condition, Text.isBlankText text = false

/-- A transition between steps with the given ids. -/
structure Joins (link : DraftTransition) (known : List String) : Prop where
  source : ∃ id ∈ known, link.source = .text id
  target : ∃ id ∈ known, link.target = .text id

theorem field?_toDict (link : DraftTransition) (name : String) :
    link.toDict.field? name =
      if name = "from" then some link.source
      else if name = "to" then some link.target
      else if name = "condition" then link.condition.map .text
      else none := by
  have pair : [("from", link.source), ("to", link.target)] =
      [("from", link.source)] ++ [("to", link.target)] := rfl
  simp only [toDict, Dict.field?_ofFields, List.lookup_append, pair, lookup_singleton,
    lookup_toList]
  by_cases source : name = "from"
  · simp [source]
  by_cases target : name = "to"
  · simp [target]
  simp [source, target]

end DraftTransition

namespace Definition

section Transitions

variable {known : List String} {index : Nat}

theorem parseEndpoint_decides (identifiers : ∀ id ∈ known, isIdentifier id = true) {fields : Dict}
    {endpoint id : String} (found : fields.field? endpoint = some (.text id)) :
    Decides (id ∈ known) (parseEndpoint index known fields endpoint) := by
  by_cases declared : id ∈ known
  · have reads := @parseEndpoint_eq_ok known index fields endpoint id found
      (identifiers id declared) declared
    exact (Decides.of_eq_ok reads).congr (iff_of_true trivial declared)
  · simp only [parseEndpoint, found]
    split
    · exact .refuses declared rfl
    · rw [if_neg (by simpa using declared)]
      exact .refuses declared rfl

/-- A transition of a draft is read if it leads from a step to a step. -/
theorem parseTransition_decides (identifiers : ∀ id ∈ known, isIdentifier id = true)
    {link : DraftTransition} {value : Value} (typed : link.Typed)
    (opens : (Value.dict link.toDict).Opens value) :
    Decides (link.Joins known) (parseTransition index known value) := by
  obtain ⟨source, sources⟩ := typed.source
  obtain ⟨target, targets⟩ := typed.target
  obtain ⟨fields, opened, opens⟩ := opens.opened_dict
  have leaves : Dict.field? fields "from" = some (.text source) :=
    opens.scalar ((link.field?_toDict "from").trans (congrArg some sources))
  have leads : Dict.field? fields "to" = some (.text target) :=
    opens.scalar ((link.field?_toDict "to").trans (congrArg some targets))
  have condition : parseTransitionCondition index fields = .ok link.condition :=
    parseTransitionCondition_eq_ok (opens.text? (link.field?_toDict "condition")) typed.condition
  have metadata : Dict.field? fields "metadata" = none :=
    opens.missing (link.field?_toDict "metadata")
  have joins : link.Joins known ↔ source ∈ known ∧ target ∈ known := by
    constructor
    · rintro ⟨⟨first, declared, same⟩, second, declaredToo, sameToo⟩
      cases sources.symm.trans same
      cases targets.symm.trans sameToo
      exact ⟨declared, declaredToo⟩
    · exact fun both => ⟨⟨source, both.1, sources⟩, target, both.2, targets⟩
  apply Decides.congr _ joins.symm
  simp only [parseTransition, opened]
  refine (parseEndpoint_decides identifiers leaves).bind fun _ _ _ => ?_
  refine (parseEndpoint_decides identifiers leads).then_reads fun _ => ?_
  refine exists_then.mpr ⟨link.condition, condition, ?_⟩
  simp only [metadata]
  refine exists_then.mpr ⟨[], rfl, ?_⟩
  exact exists_then.mpr ⟨[], textKeyed_eq_ok Dict.keyedByText_nil, _, rfl⟩

/-- The transitions of a draft are read if each leads from a step to a step. -/
theorem parseTransitionItems_decides (identifiers : ∀ id ∈ known, isIdentifier id = true)
    {links : List DraftTransition} {items : List Value} (typed : ∀ link ∈ links, link.Typed)
    (opens : List.Forall₂ Value.Opens (links.map fun link => .dict link.toDict) items) :
    Decides (∀ link ∈ links, link.Joins known) (parseTransitionItems index known items) := by
  induction links generalizing items index with
  | nil =>
      cases opens
      exact .reads (List.forall_mem_nil _) []
  | cons link rest ih =>
      rw [List.map_cons] at opens
      obtain ⟨item, others, first, later, rfl⟩ := List.forall₂_cons_left_iff.mp opens
      obtain ⟨typedFirst, typed⟩ := List.forall_mem_cons.mp typed
      rw [parseTransitionItems, List.forall_mem_cons]
      refine (parseTransition_decides identifiers typedFirst first).bind fun _ _ _ => ?_
      exact (ih typed later).then_reads fun _ => ⟨_, rfl⟩

end Transitions

end Definition

/-! ## Drafts -/

namespace Draft

/-- A draft whose parts are of the kinds they are declared with and passed the checks of a draft. -/
structure Typed (draft : Draft) : Prop where
  name : isIdentifier draft.name = true
  version : ∃ text, draft.version = .text text
  metadata : draft.metadata.KeyedByText
  steps : ∀ step ∈ draft.steps, step.Typed
  distinct : draft.stepIds.Nodup
  transitions : ∀ link ∈ draft.transitions, link.Typed

/-- What the reader of definitions asks of a draft beyond the checks of a draft. -/
structure Complete (draft : Draft) : Prop where
  steps : draft.steps ≠ []
  version : draft.version.isBlank = false
  refers : ∀ step ∈ draft.steps, step.Refers
  joins : ∀ link ∈ draft.transitions, link.Joins draft.stepIds

theorem field?_toDict (draft : Draft) (name : String) :
    draft.toDict.field? name =
      if name = "name" then some (.text draft.name)
      else if name = "version" then some draft.version
      else if name = "steps" then
        some (.list (draft.steps.map fun step => .dict step.toDict))
      else if name = "transitions" then
        some (.list (draft.transitions.map fun link => .dict link.toDict))
      else if name = "metadata" then
        some (.dict (if draft.description.truthy then
          draft.metadata.setField "description" draft.description else draft.metadata))
      else none := by
  simp only [toDict, Dict.field?_ofFields, List.lookup_cons, List.lookup_nil]
  by_cases named : name = "name"
  · simp [named]
  by_cases version : name = "version"
  · simp [version]
  by_cases steps : name = "steps"
  · simp [steps]
  by_cases transitions : name = "transitions"
  · simp [transitions]
  by_cases metadata : name = "metadata"
  · simp [metadata]
  simp [named, version, steps, transitions, metadata, beq_eq_decide]

end Draft

namespace Definition

section Drafts

variable {draft : Draft} {found : Dict}

theorem parseMetadata_opened (typed : draft.Typed) (opens : draft.toDict.Opens found) :
    ∃ metadata : Dict, parseMetadata found = .ok metadata ∧ metadata.KeyedByText := by
  have keyed : Dict.KeyedByText (if draft.description.truthy then
      draft.metadata.setField "description" draft.description else draft.metadata) := by
    split
    · exact typed.metadata.insert "description" draft.description
    · exact typed.metadata
  obtain ⟨_, held, opened⟩ := opens.held (draft.field?_toDict "metadata")
  obtain ⟨metadata, rfl, keyed⟩ := opened.keyedByText keyed
  exact ⟨metadata, by simp [parseMetadata, held], keyed⟩

theorem parseStepIds_opened (typed : draft.Typed) (nonempty : draft.steps ≠ [])
    (opens : draft.toDict.Opens found) :
    ∃ raw, parseStepIds found = .ok raw ∧ List.Forall₂ Gives draft.steps raw := by
  obtain ⟨_, held, opened⟩ := opens.held (draft.field?_toDict "steps")
  obtain ⟨items, same, all⟩ := opened.opened_list
  have identifiers : ∀ step ∈ draft.steps, isIdentifier step.id = true :=
    fun step member => (typed.steps step member).id
  obtain ⟨raw, lists, gives⟩ := @listedSteps_gives _ _ 0 [] all identifiers typed.distinct
  refine ⟨raw, ?_, gives⟩
  simp only [parseStepIds, held, Option.map_some, same]
  cases items with
  | nil =>
      cases steps : draft.steps with
      | nil => exact absurd steps nonempty
      | cons =>
          rw [steps] at all
          cases all
  | cons => exact lists

theorem parseTransitions_decides (typed : draft.Typed) (opens : draft.toDict.Opens found) :
    Decides (∀ link ∈ draft.transitions, link.Joins draft.stepIds)
      (parseTransitions found draft.stepIds) := by
  obtain ⟨_, held, opened⟩ := opens.held (draft.field?_toDict "transitions")
  obtain ⟨items, same, all⟩ := opened.opened_list
  have identifiers : ∀ id ∈ draft.stepIds, isIdentifier id = true := by
    intro id member
    obtain ⟨step, inside, rfl⟩ := List.mem_map.mp member
    exact (typed.steps step inside).id
  simp only [parseTransitions, held, Option.map_some, same]
  exact parseTransitionItems_decides identifiers typed.transitions all

theorem parseSteps_stepIds {raw : List (String × Dict)} {steps : List (String × Step)}
    (gives : List.Forall₂ Gives draft.steps raw) (reads : parseSteps raw = .ok steps) :
    steps.map (·.1) = draft.stepIds := by
  rw [(parseSteps_spec reads).1]
  exact map_eq_of_forall₂ gives fun _ _ given => given.1

theorem parseVersion_decides {version : String}
    (given : found.field? "version" = some (.text version)) :
    Decides (Text.isBlankText version = false) (parseVersion found) := by
  simp only [parseVersion, given]
  split
  · next blank => exact .refuses (by simp [blank]) rfl
  · next filled => exact .reads (by simpa using filled) version

/-- The head of a draft with steps is read if its version is not blank; it has the steps. -/
theorem parseHeader_decides (typed : draft.Typed) (nonempty : draft.steps ≠ [])
    (opens : draft.toDict.Opens found) :
    Decides (draft.version.isBlank = false) (parseHeader found) ∧
      ∀ header, parseHeader found = .ok header →
        header.2.2.1.KeyedByText ∧ List.Forall₂ Gives draft.steps header.2.2.2 := by
  obtain ⟨version, versions⟩ := typed.version
  have name : parseName found = .ok draft.name :=
    parseName_eq_ok.mpr ⟨opens.scalar (draft.field?_toDict "name"), typed.name⟩
  have given : found.field? "version" = some (.text version) :=
    opens.scalar ((draft.field?_toDict "version").trans (congrArg some versions))
  obtain ⟨metadata, notes, keyed⟩ := parseMetadata_opened typed opens
  obtain ⟨raw, ids, gives⟩ := parseStepIds_opened typed nonempty opens
  simp only [parseHeader, name, notes, ids]
  constructor
  · rw [versions]
    exact (parseVersion_decides given).then_reads fun _ => ⟨_, rfl⟩
  · intro header reads
    obtain ⟨_, _, reads⟩ := then_eq_ok.mp reads
    obtain ⟨_, _, reads⟩ := then_eq_ok.mp reads
    cases reads
    exact ⟨keyed, gives⟩

/-- A draft with steps is read if it is complete. -/
theorem parseDict_decides (typed : draft.Typed) (nonempty : draft.steps ≠ [])
    (opens : draft.toDict.Opens found) : Decides draft.Complete (parseDict found) := by
  obtain ⟨header, parts⟩ := parseHeader_decides typed nonempty opens
  suffices all : Decides (draft.version.isBlank = false ∧ (∀ step ∈ draft.steps, step.Refers) ∧
      ∀ link ∈ draft.transitions, link.Joins draft.stepIds) (parseDict found) from
    all.congr ⟨fun ⟨version, refers, joins⟩ => ⟨nonempty, version, refers, joins⟩,
      fun complete => ⟨complete.version, complete.refers, complete.joins⟩⟩
  refine header.bind fun (_, _, metadata, raw) reads _ => ?_
  obtain ⟨keyed, gives⟩ := parts _ reads
  refine (parseSteps_decides typed.steps gives).bind fun steps reads _ => ?_
  rw [parseSteps_stepIds gives reads]
  refine (parseTransitions_decides typed opens).then_reads fun _ => ?_
  exact exists_then.mpr ⟨metadata, textKeyed_eq_ok keyed, _, rfl⟩

end Drafts

end Definition

namespace Draft

/-- The document of a draft of the right kinds is read if the draft is complete, and breaks a rule
of definitions if it is not. -/
theorem Typed.build_cases {draft : Draft} (typed : draft.Typed) :
    (draft.Complete ∧ ∃ definition, draft.build = .ok definition) ∨
      (¬ draft.Complete ∧ ∃ error, draft.build = .error (.definition error)) := by
  by_cases nonempty : draft.steps = []
  · have refused : draft.build = refuse (.emptyWorkflow (.text draft.name)) := by
      simp [build, nonempty]
    exact .inr ⟨fun complete => complete.steps nonempty, _, refused.trans rfl⟩
  · have parses : draft.build = Definition.parse (.document (.dict draft.toDict)) := by
      simp [build, nonempty]
    obtain ⟨found, same, opens⟩ := Value.Opens.refl.opened_dict
    have decides := Definition.parseDict_decides typed nonempty opens
    have decodes : (Definition.Source.document (.dict draft.toDict)).decode =
        .ok (.inr (.dict found)) := by
      simp [Definition.Source.decode, same]
    rw [parses, Definition.parse, decodes]
    simp only [bind, Except.bind]
    generalize Definition.parseDict found = outcome at decides ⊢
    cases decides with
    | reads complete definition => exact .inl ⟨complete, definition, rfl⟩
    | refuses incomplete shown =>
        simp only [shown]
        exact .inr ⟨incomplete, _, rfl⟩

end Draft

end Workflow
