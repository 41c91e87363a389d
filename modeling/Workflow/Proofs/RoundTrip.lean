import Workflow.Proofs.Grammar
import Workflow.Proofs.JsonText

/-!
# Definitions that are written and read again

The document of a definition leaves out every field that holds nothing, and the reader puts in for
it what it takes a missing field to mean.  For a definition that was read once these two undo each
other: its document, and the JSON text of the document, are read as the same definition, with its
steps and its transitions in the same order.
-/

namespace Workflow

open Definition (isWord)

/-! ## What the reader lets through -/

/-- A step each of whose fields holds what the reader lets through. -/
structure Step.Regular (step : Step) : Prop where
  action : ∀ action ∈ step.action, Text.isBlankText action = false
  compensation : ∀ action ∈ step.compensation, Text.isBlankText action = false
  timeout : ∀ timeout ∈ step.timeout, isTimeout timeout = true
  retryAttempts : 0 ≤ step.retryAttempts
  conditions : ∀ condition ∈ step.conditions, Text.isBlankText condition = false

namespace Definition

/-- A definition each of whose fields holds what the reader lets through. -/
structure Regular (definition : Definition) : Prop where
  name : isIdentifier definition.name = true
  version : Text.isBlankText definition.version = false
  steps : ∀ entry ∈ definition.steps, entry.2.Regular
  transitions : ∀ transition ∈ definition.transitions,
    ∀ condition ∈ transition.condition, Text.isBlankText condition = false

theorem parseVersion_filled {raw : Dict} {version : String}
    (reads : parseVersion raw = .ok version) :
    Text.isBlankText version = false := by
  unfold parseVersion at reads
  split at reads
  · cases reads
    decide
  · cases reads
    decide
  · split at reads
    · cases reads
    · next filled =>
        cases reads
        simpa using filled
  · cases reads

section Steps

variable {id : String} {fields : Dict}

theorem parseReference_filled {field : String} {reference : Option String}
    (reads : parseReference id fields field = .ok reference) :
    ∀ action ∈ reference, Text.isBlankText action = false := by
  unfold parseReference at reads
  repeat' split at reads
  all_goals cases reads
  all_goals simp_all [isWord]

theorem parseTimeout_form {timeout : Option String} (reads : parseTimeout id fields = .ok timeout) :
    ∀ text ∈ timeout, isTimeout text = true := by
  unfold parseTimeout at reads
  repeat' split at reads
  all_goals cases reads
  all_goals simp_all

theorem parseRetryAttempts_nonneg {attempts : Int}
    (reads : parseRetryAttempts id fields = .ok attempts) : 0 ≤ attempts := by
  unfold parseRetryAttempts at reads
  repeat' split at reads
  all_goals cases reads
  all_goals simp_all

/-- The items of a list are read as conditions if they are texts that are not blank. -/
theorem parseConditionItems_eq_ok {items : List Value} {conditions : List String} :
    parseConditionItems id items = .ok conditions ↔
      items = conditions.map .text ∧
        ∀ condition ∈ conditions, Text.isBlankText condition = false := by
  induction items generalizing conditions with
  | nil =>
      cases conditions <;> simp [parseConditionItems]
  | cons item rest ih =>
      constructor
      · intro reads
        simp only [parseConditionItems, refuse, bind, Except.bind] at reads
        repeat' split at reads
        all_goals cases reads
        next word _ others later =>
          obtain ⟨same, filled⟩ := ih.mp later
          exact ⟨by rw [same, List.map_cons],
            List.forall_mem_cons.mpr ⟨by simpa [isWord] using word, filled⟩⟩
      · intro written
        obtain ⟨same, filled⟩ := written
        cases conditions with
        | nil => cases same
        | cons condition others =>
            cases same
            obtain ⟨first, filled⟩ := List.forall_mem_cons.mp filled
            have later := ih.mpr ⟨rfl, filled⟩
            simp [parseConditionItems, isWord, first, later, bind, Except.bind]

theorem parseConditions_filled {conditions : List String}
    (reads : parseConditions id fields = .ok conditions) :
    ∀ condition ∈ conditions, Text.isBlankText condition = false := by
  unfold parseConditions at reads
  split at reads
  · cases reads
    simp
  · cases reads
    simp
  · exact (parseConditionItems_eq_ok.mp reads).2
  · exact (parseConditionItems_eq_ok.mp reads).2
  · cases reads

theorem parseStep_regular {step : Step} (reads : parseStep id fields = .ok step) :
    step.Regular := by
  simp only [parseStep, parseStepHead] at reads
  obtain ⟨head, heads, reads⟩ := then_eq_ok.mp reads
  obtain ⟨action, actions, heads⟩ := then_eq_ok.mp heads
  obtain ⟨compensation, compensations, heads⟩ := then_eq_ok.mp heads
  obtain ⟨timeout, timeouts, heads⟩ := then_eq_ok.mp heads
  obtain ⟨attempts, retries, heads⟩ := then_eq_ok.mp heads
  cases heads
  obtain ⟨_, _, reads⟩ := then_eq_ok.mp reads
  obtain ⟨conditions, guards, reads⟩ := then_eq_ok.mp reads
  obtain ⟨_, _, reads⟩ := then_eq_ok.mp reads
  cases reads
  exact ⟨parseReference_filled actions, parseReference_filled compensations,
    parseTimeout_form timeouts, parseRetryAttempts_nonneg retries, parseConditions_filled guards⟩

theorem parseSteps_regular {raw : List (String × Dict)} {steps : List (String × Step)}
    (reads : parseSteps raw = .ok steps) : ∀ entry ∈ steps, entry.2.Regular := by
  induction raw generalizing steps with
  | nil =>
      cases reads
      simp
  | cons entry rest ih =>
      simp only [parseSteps] at reads
      obtain ⟨step, first, reads⟩ := then_eq_ok.mp reads
      obtain ⟨others, following, reads⟩ := then_eq_ok.mp reads
      cases reads
      exact List.forall_mem_cons.mpr ⟨parseStep_regular first, ih following⟩

end Steps

theorem parseTransitionCondition_filled {index : Nat} {fields : Dict} {condition : Option String}
    (reads : parseTransitionCondition index fields = .ok condition) :
    ∀ text ∈ condition, Text.isBlankText text = false := by
  unfold parseTransitionCondition at reads
  repeat' split at reads
  all_goals cases reads
  all_goals simp_all [isWord]

theorem parseTransition_filled {index : Nat} {known : List String} {value : Value}
    {transition : Transition} (reads : parseTransition index known value = .ok transition) :
    ∀ text ∈ transition.condition, Text.isBlankText text = false := by
  simp only [parseTransition] at reads
  split at reads
  · obtain ⟨_, _, reads⟩ := then_eq_ok.mp reads
    obtain ⟨_, _, reads⟩ := then_eq_ok.mp reads
    obtain ⟨condition, conditions, reads⟩ := then_eq_ok.mp reads
    have held : transition.condition = condition := by
      simp only [refuse, bind, Except.bind] at reads
      repeat' split at reads
      all_goals
        cases reads
        try rfl
    rw [held]
    exact parseTransitionCondition_filled conditions
  · cases reads

theorem parseTransitionItems_filled {index : Nat} {known : List String} {items : List Value}
    {transitions : List Transition}
    (reads : parseTransitionItems index known items = .ok transitions) :
    ∀ transition ∈ transitions, ∀ text ∈ transition.condition, Text.isBlankText text = false := by
  induction items generalizing index transitions with
  | nil =>
      cases reads
      simp
  | cons item rest ih =>
      simp only [parseTransitionItems] at reads
      obtain ⟨first, leads, reads⟩ := then_eq_ok.mp reads
      obtain ⟨others, following, reads⟩ := then_eq_ok.mp reads
      cases reads
      exact List.forall_mem_cons.mpr ⟨parseTransition_filled leads, ih following⟩

theorem parseTransitions_filled {raw : Dict} {known : List String} {transitions : List Transition}
    (reads : parseTransitions raw known = .ok transitions) :
    ∀ transition ∈ transitions, ∀ text ∈ transition.condition, Text.isBlankText text = false := by
  simp only [parseTransitions] at reads
  split at reads
  · cases reads
    simp
  · cases reads
    simp
  · exact parseTransitionItems_filled reads
  · cases reads

/-- What is read is regular. -/
theorem IsRead.regular {definition : Definition} (read : definition.IsRead) :
    definition.Regular := by
  obtain ⟨fields, reads⟩ := read.exists_parseDict
  obtain ⟨raw, _, names, versions, _, _, steps, transitions, _⟩ := parseDict_eq_ok.mp reads
  exact ⟨(parseName_eq_ok.mp names).2, parseVersion_filled versions, parseSteps_regular steps,
    parseTransitions_filled transitions⟩

end Definition

/-! ## Documents with fields left out -/

section Fields

variable {α : Type} (name key : String) (value : Value)

theorem lookup_singleton :
    [(key, value)].lookup name = if name = key then some value else none := by
  by_cases same : name = key
  · simp [same]
  · have other : (name == key) = false := by simpa using same
    simp [List.lookup_cons, same, other]

theorem lookup_toList (make : α → Value) (held : Option α) :
    (held.map fun held => (key, make held)).toList.lookup name =
      if name = key then held.map make else none := by
  cases held with
  | none => simp
  | some held => exact lookup_singleton name key (make held)

theorem lookup_unless (empty : Prop) [Decidable empty] :
    (if empty then [] else [(key, value)]).lookup name =
      if name = key ∧ ¬ empty then some value else none := by
  by_cases left : empty
  · simp [left]
  · simp [left, lookup_singleton]

theorem keys_toList (make : α → Value) (held : Option α) :
    ((held.map fun held => (key, make held)).toList.map (·.1)).Sublist [key] := by
  cases held <;> simp

theorem keys_unless (empty : Prop) [Decidable empty] :
    ((if empty then [] else [(key, value)]).map (·.1)).Sublist [key] := by
  by_cases left : empty <;> simp [left]

end Fields

namespace Step

variable (step : Step)

theorem field?_toDict (name : String) :
    step.toDict.field? name =
      if name = "id" then some (.text step.id)
      else if name = "action" then step.action.map .text
      else if name = "parameters" then
        if step.parameters.isEmpty then none else some (.dict step.parameters)
      else if name = "timeout" then step.timeout.map .text
      else if name = "retry_attempts" then
        if step.retryAttempts = 0 then none else some (.int step.retryAttempts)
      else if name = "conditions" then
        if step.conditions.isEmpty then none else some (.ofTexts step.conditions)
      else if name = "compensation" then step.compensation.map .text
      else none := by
  simp only [toDict, Dict.field?_ofFields, List.lookup_append, lookup_singleton, lookup_toList,
    lookup_unless]
  by_cases id : name = "id"
  · simp [id]
  by_cases action : name = "action"
  · simp [action]
  by_cases parameters : name = "parameters"
  · cases empty : step.parameters.isEmpty <;> simp [parameters]
  by_cases timeout : name = "timeout"
  · simp [timeout]
  by_cases retry : name = "retry_attempts"
  · by_cases none : step.retryAttempts = 0 <;> simp [retry, none]
  by_cases conditions : name = "conditions"
  · cases empty : step.conditions.isEmpty <;> simp [conditions]
  simp [id, action, parameters, timeout, retry, conditions]

/-- The document of a step is one that a JSON text can hold. -/
theorem holdJson_toDict (parameters : Value.holdJson step.parameters = true)
    (attempts : isReadableInteger step.retryAttempts = true) :
    Value.holdJson step.toDict = true := by
  apply Value.holdJson_ofFields
  · have distinct : ["id", "action", "parameters", "timeout", "retry_attempts", "conditions",
        "compensation"].Nodup := by decide
    apply List.Nodup.sublist _ distinct
    simp only [List.map_append]
    exact ((((((List.Sublist.refl ["id"]).append (keys_toList _ _ _)).append
      (keys_unless _ _ _)).append (keys_toList _ _ _)).append (keys_unless _ _ _)).append
        (keys_unless _ _ _)).append (keys_toList _ _ _)
  · intro field member
    simp only [List.mem_append, List.mem_singleton, Option.mem_toList, Option.map_eq_some_iff,
      List.mem_ite_nil_left] at member
    obtain (((((rfl | ⟨_, _, rfl⟩) | ⟨_, rfl⟩) | ⟨_, _, rfl⟩) | ⟨_, rfl⟩) | ⟨_, rfl⟩) |
      ⟨_, _, rfl⟩ := member
    · rfl
    · rfl
    · exact parameters
    · rfl
    · exact attempts
    · exact Value.areJson_ofTexts step.conditions
    · rfl

end Step

namespace Transition

variable (transition : Transition)

theorem field?_toDict (name : String) :
    transition.toDict.field? name =
      if name = "from" then some (.text transition.source)
      else if name = "to" then some (.text transition.target)
      else if name = "condition" then transition.condition.map .text
      else if name = "metadata" then
        if transition.metadata.isEmpty then none else some (.dict transition.metadata)
      else none := by
  have pair : [("from", Value.text transition.source), ("to", Value.text transition.target)] =
      [("from", Value.text transition.source)] ++ [("to", Value.text transition.target)] := rfl
  simp only [toDict, Dict.field?_ofFields, List.lookup_append, pair, lookup_singleton,
    lookup_toList, lookup_unless]
  by_cases source : name = "from"
  · simp [source]
  by_cases target : name = "to"
  · simp [target]
  by_cases condition : name = "condition"
  · simp [condition]
  by_cases metadata : name = "metadata"
  · cases empty : transition.metadata.isEmpty <;> simp [metadata]
  simp [source, target, condition, metadata]

/-- The document of a transition is one that a JSON text can hold. -/
theorem holdJson_toDict (metadata : Value.holdJson transition.metadata = true) :
    Value.holdJson transition.toDict = true := by
  apply Value.holdJson_ofFields
  · have distinct : ["from", "to", "condition", "metadata"].Nodup := by decide
    apply List.Nodup.sublist _ distinct
    simp only [List.map_append]
    exact ((List.Sublist.refl ["from", "to"]).append (keys_toList _ _ _)).append
      (keys_unless _ _ _)
  · intro field member
    simp only [List.mem_append, List.mem_cons, List.not_mem_nil, or_false, Option.mem_toList,
      Option.map_eq_some_iff, List.mem_ite_nil_left] at member
    obtain ((rfl | rfl) | ⟨_, _, rfl⟩) | ⟨_, rfl⟩ := member
    · rfl
    · rfl
    · rfl
    · exact metadata

end Transition

namespace Definition

/-! ## Reading the documents -/

section Steps

variable {id : String} {fields : Dict}

theorem parseReference_eq_ok {field : String} {reference : Option String}
    (found : fields.field? field = reference.map .text)
    (filled : ∀ action ∈ reference, Text.isBlankText action = false) :
    parseReference id fields field = .ok reference := by
  cases reference with
  | none => simp [parseReference, found]
  | some action => simp [parseReference, found, isWord, filled action rfl]

theorem parseTimeout_eq_ok {timeout : Option String}
    (found : fields.field? "timeout" = timeout.map .text)
    (form : ∀ text ∈ timeout, isTimeout text = true) :
    parseTimeout id fields = .ok timeout := by
  cases timeout with
  | none => simp [parseTimeout, found]
  | some text => simp [parseTimeout, found, form text rfl]

theorem parseRetryAttempts_eq_ok {attempts : Int}
    (found : fields.field? "retry_attempts" = if attempts = 0 then none else some (.int attempts))
    (nonneg : 0 ≤ attempts) (short : isReadableInteger attempts = true) :
    parseRetryAttempts id fields = .ok attempts := by
  have shown : (Scalar.int attempts).isShown = true := short
  by_cases zero : attempts = 0
  · simp [parseRetryAttempts, found, zero]
  · simp [parseRetryAttempts, found, zero, shown, Int.not_lt.mpr nonneg]

theorem parseParameters_eq_ok {parameters : Dict}
    (found : (fields.field? "parameters").or (fields.field? "config") =
      if parameters.isEmpty then none else some (.dict parameters)) :
    parseParameters id fields = .ok parameters := by
  cases parameters with
  | nil => simp [parseParameters, found]
  | cons entry rest => simp [parseParameters, found]

theorem parseConditions_eq_ok {conditions : List String}
    (found : fields.field? "conditions" =
      if conditions.isEmpty then none else some (.ofTexts conditions))
    (filled : ∀ condition ∈ conditions, Text.isBlankText condition = false) :
    parseConditions id fields = .ok conditions := by
  cases conditions with
  | nil => simp [parseConditions, found]
  | cons condition rest =>
      have items := (@parseConditionItems_eq_ok id _ _).mpr ⟨rfl, filled⟩
      simpa [parseConditions, found, Value.ofTexts] using items

/-- A step is read from its document. -/
theorem parseStep_toDict {step : Step} (regular : step.Regular)
    (keyed : step.parameters.KeyedByText) (short : isReadableInteger step.retryAttempts = true) :
    parseStep step.id step.toDict = .ok step := by
  have field := step.field?_toDict
  have action : parseReference step.id step.toDict "action" = .ok step.action :=
    parseReference_eq_ok (by simp [field]) regular.action
  have compensation : parseReference step.id step.toDict "compensation" = .ok step.compensation :=
    parseReference_eq_ok (by simp [field]) regular.compensation
  have timeout : parseTimeout step.id step.toDict = .ok step.timeout :=
    parseTimeout_eq_ok (by simp [field]) regular.timeout
  have retry : parseRetryAttempts step.id step.toDict = .ok step.retryAttempts :=
    parseRetryAttempts_eq_ok (by simp [field]) regular.retryAttempts short
  have parameters : parseParameters step.id step.toDict = .ok step.parameters :=
    parseParameters_eq_ok (by simp [field])
  have conditions : parseConditions step.id step.toDict = .ok step.conditions :=
    parseConditions_eq_ok (by simp [field]) regular.conditions
  have keyed : textKeyed "parameters" step.parameters = .ok step.parameters :=
    textKeyed_eq_ok keyed
  simp [parseStep, parseStepHead, action, compensation, timeout, retry, parameters, conditions,
    keyed, bind, Except.bind]

theorem parseSteps_toDict {steps : List (String × Step)}
    (keyed : ∀ entry ∈ steps, entry.2.id = entry.1) (regular : ∀ entry ∈ steps, entry.2.Regular)
    (json : ∀ entry ∈ steps, entry.2.parameters.KeyedByText)
    (short : ∀ entry ∈ steps, isReadableInteger entry.2.retryAttempts = true) :
    parseSteps (steps.map fun entry => (entry.1, entry.2.toDict)) = .ok steps := by
  induction steps with
  | nil => rfl
  | cons entry rest ih =>
      obtain ⟨key, keyed⟩ := List.forall_mem_cons.mp keyed
      obtain ⟨first, regular⟩ := List.forall_mem_cons.mp regular
      obtain ⟨texts, json⟩ := List.forall_mem_cons.mp json
      obtain ⟨few, short⟩ := List.forall_mem_cons.mp short
      have step := parseStep_toDict first texts few
      rw [key] at step
      simp only [List.map_cons, parseSteps, step, ih keyed regular json short, bind, Except.bind]

end Steps

section Transitions

variable {known : List String}

theorem parseEndpoint_eq_ok {index : Nat} {fields : Dict} {endpoint id : String}
    (found : fields.field? endpoint = some (.text id)) (identifier : isIdentifier id = true)
    (declared : id ∈ known) : parseEndpoint index known fields endpoint = .ok id := by
  simp [parseEndpoint, found, isBlankText_of_isIdentifier identifier, declared]

theorem parseTransitionCondition_eq_ok {index : Nat} {fields : Dict} {condition : Option String}
    (found : fields.field? "condition" = condition.map .text)
    (filled : ∀ text ∈ condition, Text.isBlankText text = false) :
    parseTransitionCondition index fields = .ok condition := by
  cases condition with
  | none => simp [parseTransitionCondition, found]
  | some text => simp [parseTransitionCondition, found, isWord, filled text rfl]

/-- A transition between known steps is read from its document. -/
theorem parseTransition_toDict {index : Nat} {transition : Transition}
    (identifiers : ∀ id ∈ known, isIdentifier id = true)
    (ends : transition.source ∈ known ∧ transition.target ∈ known)
    (filled : ∀ text ∈ transition.condition, Text.isBlankText text = false)
    (json : Value.holdJson transition.metadata = true) :
    parseTransition index known (.dict transition.toDict) = .ok transition := by
  have field := transition.field?_toDict
  have opened : (Value.dict transition.toDict).opened = .dict transition.toDict :=
    Value.opened_of_isJson (transition.holdJson_toDict json)
  have source : parseEndpoint index known transition.toDict "from" = .ok transition.source :=
    parseEndpoint_eq_ok (by simp [field]) (identifiers _ ends.1) ends.1
  have target : parseEndpoint index known transition.toDict "to" = .ok transition.target :=
    parseEndpoint_eq_ok (by simp [field]) (identifiers _ ends.2) ends.2
  have condition : parseTransitionCondition index transition.toDict = .ok transition.condition :=
    parseTransitionCondition_eq_ok (by simp [field]) filled
  have metadata : transition.toDict.field? "metadata" =
      if transition.metadata.isEmpty then none else some (.dict transition.metadata) := by
    simp [field]
  have keyed : textKeyed "metadata" transition.metadata = .ok transition.metadata :=
    textKeyed_eq_ok (Value.keyedByText_of_holdJson json)
  simp only [parseTransition, opened, source, target, condition, bind, Except.bind]
  cases held : transition.metadata with
  | nil =>
      rw [held] at metadata keyed
      simp only [List.isEmpty_nil, if_true] at metadata
      simp only [metadata, keyed]
      rw [← held]
  | cons entry rest =>
      rw [held] at metadata keyed
      simp only [List.isEmpty_cons, Bool.false_eq_true, if_false] at metadata
      simp only [metadata, keyed]
      rw [← held]

theorem parseTransitionItems_toDict {index : Nat} {transitions : List Transition}
    (identifiers : ∀ id ∈ known, isIdentifier id = true)
    (ends : ∀ transition ∈ transitions, transition.source ∈ known ∧ transition.target ∈ known)
    (filled : ∀ transition ∈ transitions,
      ∀ text ∈ transition.condition, Text.isBlankText text = false)
    (json : ∀ transition ∈ transitions, Value.holdJson transition.metadata = true) :
    parseTransitionItems index known (transitions.map fun transition => .dict transition.toDict) =
      .ok transitions := by
  induction transitions generalizing index with
  | nil => rfl
  | cons transition rest ih =>
      obtain ⟨end', ends⟩ := List.forall_mem_cons.mp ends
      obtain ⟨first, filled⟩ := List.forall_mem_cons.mp filled
      obtain ⟨holds, json⟩ := List.forall_mem_cons.mp json
      have reads := @parseTransition_toDict known index transition identifiers end' first holds
      simp only [List.map_cons, parseTransitionItems, reads, ih ends filled json, bind, Except.bind]

end Transitions

/-! ## Definitions -/

/-- Whether the parameters and the metadata of a definition are values that a JSON text can hold. -/
def isJson (definition : Definition) : Bool :=
  Value.holdJson definition.metadata &&
    definition.steps.all (fun (_, step) =>
      Value.holdJson step.parameters && isReadableInteger step.retryAttempts) &&
    definition.transitions.all fun transition => Value.holdJson transition.metadata

variable {definition : Definition}

theorem isJson_parts (json : definition.isJson = true) :
    Value.holdJson definition.metadata = true ∧
      (∀ entry ∈ definition.steps, Value.holdJson entry.2.parameters = true) ∧
      (∀ entry ∈ definition.steps, isReadableInteger entry.2.retryAttempts = true) ∧
      ∀ transition ∈ definition.transitions, Value.holdJson transition.metadata = true := by
  simp only [isJson, Bool.and_eq_true, List.all_eq_true] at json
  exact ⟨json.1.1, fun entry member => (json.1.2 entry member).1,
    fun entry member => (json.1.2 entry member).2, json.2⟩

/-- The document of a definition is one that a JSON text can hold. -/
theorem holdJson_toDict (json : definition.isJson = true) :
    Value.holdJson definition.toDict = true := by
  obtain ⟨metadata, parameters, attempts, notes⟩ := isJson_parts json
  apply Value.holdJson_ofFields
  · simp
  · intro field member
    simp only [List.mem_cons, List.not_mem_nil, or_false] at member
    obtain rfl | rfl | rfl | rfl | rfl := member
    · rfl
    · rfl
    · simp only [Value.isJson, Value.areJson_iff, List.forall_mem_map]
      intro entry member
      exact entry.2.holdJson_toDict (parameters entry member) (attempts entry member)
    · simp only [Value.isJson, Value.areJson_iff, List.forall_mem_map]
      intro transition member
      exact transition.holdJson_toDict (notes transition member)
    · exact metadata

theorem field?_toDict (name : String) :
    definition.toDict.field? name =
      if name = "name" then some (.text definition.name)
      else if name = "version" then some (.text definition.version)
      else if name = "steps" then
        some (.list (definition.steps.map fun (_, step) => .dict step.toDict))
      else if name = "transitions" then
        some (.list (definition.transitions.map fun transition => .dict transition.toDict))
      else if name = "metadata" then some (.dict definition.metadata)
      else none := by
  simp only [toDict, Dict.ofFields, List.map_cons, List.map_nil, Dict.field?_cons, Dict.field?_nil,
    eq_comm]

/-- The steps of a definition are declared by the list of their documents. -/
theorem declares_toDict (wellFormed : definition.WellFormed) (distinct : definition.stepIds.Nodup) :
    Declares (.list (definition.steps.map fun (_, step) => .dict step.toDict))
      (definition.steps.map fun entry => (entry.1, entry.2.toDict)) := by
  apply Declares.listed
  · simpa using wellFormed.steps_ne_nil
  · rw [List.forall₂_map_left_iff, List.forall₂_map_right_iff, List.forall₂_same]
    intro entry member
    constructor
    · rfl
    · simp [Step.field?_toDict, wellFormed.id_of_mem_steps entry member]
  · rw [List.map_map]
    exact distinct

/-- A definition that was read is read again from its document. -/
theorem parseDict_toDict (wellFormed : definition.WellFormed) (regular : definition.Regular)
    (distinct : definition.stepIds.Nodup) (json : definition.isJson = true) :
    parseDict definition.toDict = .ok definition := by
  have whole := holdJson_toDict json
  obtain ⟨metadata, parameters, attempts, notes⟩ := isJson_parts json
  have field := @field?_toDict definition
  have found : definition.toDict.field? "transitions" =
      some (.list (definition.transitions.map fun transition => .dict transition.toDict)) := by
    simp [field]
  have opened : (Value.list (definition.transitions.map fun transition =>
      .dict transition.toDict)).opened =
        .list (definition.transitions.map fun transition => .dict transition.toDict) :=
    Value.opened_of_isJson (Value.isJson_of_field? whole found)
  apply parseDict_eq_ok.mpr
  refine ⟨(definition.steps.map fun entry => (entry.1, entry.2.toDict)).map declared,
    definition.metadata, ?_, ?_, ?_, ?_, ?_, ?_, ?_⟩
  · exact parseName_eq_ok.mpr ⟨by simp [field], regular.name⟩
  · simp [parseVersion, field, regular.version]
  · simp [parseMetadata, field]
  · apply (parseStepIds_eq_ok whole).mpr
    refine ⟨_, _, ?_, declares_toDict wellFormed distinct, ?_, rfl⟩
    · simp [field]
    · intro step member
      obtain ⟨entry, inside, rfl⟩ := List.mem_map.mp member
      exact wellFormed.isIdentifier_of_mem_stepIds entry.1 (List.mem_map_of_mem inside)
  · rw [parseSteps_declared]
    exact parseSteps_toDict wellFormed.id_of_mem_steps regular.steps
      (fun entry member => Value.keyedByText_of_holdJson (parameters entry member)) attempts
  · rw [parseTransitions, found, Option.map_some, opened]
    exact parseTransitionItems_toDict wellFormed.isIdentifier_of_mem_stepIds
      wellFormed.declared_of_mem_transitions regular.transitions notes
  · exact textKeyed_eq_ok (Value.keyedByText_of_holdJson metadata)

theorem parse_document_toDict (wellFormed : definition.WellFormed) (regular : definition.Regular)
    (distinct : definition.stepIds.Nodup) (json : definition.isJson = true) :
    parse (.document (.dict definition.toDict)) = .ok definition := by
  have reads := parseDict_toDict wellFormed regular distinct json
  have opened : (Value.dict definition.toDict).opened = .dict definition.toDict :=
    Value.opened_of_isJson (holdJson_toDict json)
  simp [parse, Source.decode, opened, reads, bind, Except.bind]

theorem toJson_eq_render (json : definition.isJson = true) :
    definition.toJson = .ok (Json.render (.dict definition.toDict)) :=
  Json.write_eq_render (holdJson_toDict json)

theorem parse_render_toDict (wellFormed : definition.WellFormed) (regular : definition.Regular)
    (distinct : definition.stepIds.Nodup) (json : definition.isJson = true) :
    parse (.document (.text (Json.render (.dict definition.toDict)))) = .ok definition := by
  have reads := parseDict_toDict wellFormed regular distinct json
  have text := @Json.read_render (.dict definition.toDict) (holdJson_toDict json)
  simp [parse, Source.decode, decodeText, text, reads, Functor.map, Except.map, bind, Except.bind]

/-- A definition that was read, whose parameters and metadata a JSON text can hold, is read again
from its document and from its JSON text.  It is the same definition, the order of its steps and
transitions included; its steps stand under distinct keys, as the entries of a mapping do. -/
theorem parse_written (read : definition.IsRead) (distinct : definition.stepIds.Nodup)
    (json : definition.isJson = true) :
    parse (.document (.dict definition.toDict)) = .ok definition ∧
      ∃ text, definition.toJson = .ok text ∧ parse (.document (.text text)) = .ok definition :=
  ⟨parse_document_toDict read.wellFormed read.regular distinct json,
    _, toJson_eq_render json, parse_render_toDict read.wellFormed read.regular distinct json⟩

/-- The definition that `orderDocument` is read as. -/
def order : Definition :=
  let reserve : Step :=
    ⟨"reserve", some "reserve", Dict.ofFields [("share", .float (.ofRatio false 1 2))], some "5m",
      3, ["order.total > 0"], none⟩
  ⟨"order", "1.0", [("reserve", reserve), ("ship", .named "ship")], [⟨"reserve", "ship", none, []⟩],
    []⟩

theorem parse_written_order :
    order.IsRead ∧ order.stepIds.Nodup ∧ order.isJson = true ∧
      parse (.document (.dict order.toDict)) = .ok order ∧
        ∃ text, order.toJson = .ok text ∧ parse (.document (.text text)) = .ok order := by
  have read : order.IsRead := by
    refine ⟨.document (.dict orderDocument), rfl, ?_⟩
    intro known same
    cases same
  have distinct : order.stepIds.Nodup := by decide
  have json : order.isJson = true := by decide +kernel
  exact ⟨read, distinct, json, parse_written read distinct json⟩

end Definition

end Workflow
