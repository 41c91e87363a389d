import Workflow.Proofs.Grammar

/-!
# Documents that are not read

A source is read as a definition, or an error tells what is wrong with the definition, but for four
gaps: bytes that are no text, a number of JSON text with too many digits, a number with too many
digits to be shown, and keys that are no texts, where a mapping has to have texts for keys.  For
each part of a definition a lemma says with which faults its reader stops; the faults of the whole
follow from them.
-/

namespace Workflow

open Number

/-! ## Values that are shown -/

namespace Value

theorem areShown_iff {items : List Value} :
    areShown items = true ↔ ∀ item ∈ items, item.isShown = true := by
  induction items with
  | nil => simp [areShown]
  | cons item rest ih => simp [areShown, ih]

theorem holdShown_iff {entries : List (Scalar × Value)} :
    holdShown entries = true ↔
      ∀ entry ∈ entries, entry.1.isShown = true ∧ entry.2.isShown = true := by
  induction entries with
  | nil => simp [holdShown]
  | cons entry rest ih => simp [holdShown, ih, and_assoc]

theorem isShown_of_field? {entries : Dict} (shown : holdShown entries = true) {name : String}
    {value : Value} (found : entries.field? name = some value) : value.isShown = true := by
  obtain ⟨entry, first, rfl⟩ := Option.map_eq_some_iff.mp found
  exact (holdShown_iff.mp shown entry (List.mem_of_find?_eq_some first)).2

mutual

/-- A value can be shown if the values put into it can. -/
theorem isShown_tied {whole : Value} (shown : whole.isShown = true) (levels : Nat) (value : Value)
    (inside : value.isShown = true) : (tied whole levels value).isShown = true := by
  cases value with
  | scalar | set => exact inside
  | list items => exact areShown_tied shown (levels + 1) items inside
  | group items => exact areShown_tied shown (levels + 1) items inside
  | dict entries => exact holdShown_tied shown (levels + 1) entries inside
  | loop up isList =>
      rw [tied]
      split
      · exact shown
      · rfl

theorem areShown_tied {whole : Value} (shown : whole.isShown = true) (levels : Nat)
    (items : List Value) (inside : areShown items = true) :
    areShown (tiedItems whole levels items) = true := by
  cases items with
  | nil => rfl
  | cons item rest =>
      simp only [areShown, Bool.and_eq_true] at inside
      simp only [tiedItems, areShown, Bool.and_eq_true]
      exact ⟨isShown_tied shown levels item inside.1, areShown_tied shown levels rest inside.2⟩

theorem holdShown_tied {whole : Value} (shown : whole.isShown = true) (levels : Nat)
    (entries : List (Scalar × Value)) (inside : holdShown entries = true) :
    holdShown (tiedEntries whole levels entries) = true := by
  match entries with
  | [] => rfl
  | (key, value) :: rest =>
      simp only [holdShown, Bool.and_eq_true] at inside
      simp only [tiedEntries, holdShown, Bool.and_eq_true]
      exact ⟨⟨inside.1.1, isShown_tied shown levels value inside.1.2⟩,
        holdShown_tied shown levels rest inside.2⟩

end

theorem isJson_of_mem {entries : List (Scalar × Value)} (json : holdJson entries = true)
    {entry : Scalar × Value} (member : entry ∈ entries) : entry.2.isJson = true := by
  induction entries with
  | nil => cases member
  | cons first rest ih =>
      obtain ⟨_, _, held, others⟩ := holdJson_cons json
      cases List.mem_cons.mp member with
      | inl same =>
          rw [same]
          exact held
      | inr inside => exact ih others inside

theorem isShown_opened {value : Value} (shown : value.isShown = true) :
    value.opened.isShown = true :=
  isShown_tied shown 0 value shown

mutual

/-- The numbers of a JSON text can be shown. -/
theorem isShown_of_isJson (value : Value) (json : value.isJson = true) : value.isShown = true := by
  cases value with
  | scalar held =>
      cases held with
      | int => exact json
      | _ => rfl
  | list items => exact areShown_of_areJson items json
  | dict entries => exact holdShown_of_holdJson entries json
  | group | set | loop => cases json

theorem areShown_of_areJson (items : List Value) (json : areJson items = true) :
    areShown items = true := by
  cases items with
  | nil => rfl
  | cons item rest =>
      simp only [areJson, Bool.and_eq_true] at json
      simp only [areShown, Bool.and_eq_true]
      exact ⟨isShown_of_isJson item json.1, areShown_of_areJson rest json.2⟩

theorem holdShown_of_holdJson (entries : List (Scalar × Value)) (json : holdJson entries = true) :
    holdShown entries = true := by
  match entries with
  | [] => rfl
  | (key, value) :: rest =>
      obtain ⟨⟨name, rfl⟩, _, first, others⟩ := holdJson_cons json
      simp only [holdShown, Bool.and_eq_true]
      exact ⟨⟨rfl, isShown_of_isJson value first⟩, holdShown_of_holdJson rest others⟩

end

end Value

/-! ## Keys -/

/-- A problem with a key of a mapping at a field: the key is not read as a text. -/
def Misnames (field : String) (entries : Dict) (problem : Problem) : Prop :=
  ∃ key value fault, (key, value) ∈ entries ∧ Reader.text (.scalar key) = .fault fault ∧
    problem = ⟨[.name field, Reader.keyStep key, .name "[key]"], fault⟩

namespace Reader

/-- A key is read, or there is one problem with it. -/
theorem textKey_cases (key : Scalar) :
    (∃ name, textKey key = .valid name) ∨
      ∃ fault, text (.scalar key) = .fault fault ∧
        textKey key = .invalid [⟨[keyStep key, .name "[key]"], fault⟩] := by
  cases key with
  | text name => exact .inl ⟨name, rfl⟩
  | bytes content =>
      cases decoded : Text.decodeUtf8? false content with
      | some name => exact .inl ⟨name, by simp [textKey, text, decoded, Checked.under]⟩
      | none =>
          refine .inr ⟨.textBytes, ?_⟩
          simp [textKey, text, decoded, Checked.under, Checked.fault]
  | _ => exact .inr ⟨.notText, rfl, rfl⟩

theorem fields_any_cons (key : Scalar) (value : Value) (rest : Dict) :
    fields any (.dict ((key, value) :: rest)) =
      (fun name value rest => (name, value) :: rest) <$> textKey key <*>
        .valid value <*> fields any (.dict rest) := rfl

/-- What is wrong with a mapping whose values may be anything is wrong with its keys. -/
theorem fields_any_invalid {entries : Dict} {problems : List Problem}
    (reads : fields any (.dict entries) = .invalid problems) :
    problems ≠ [] ∧ ∀ problem ∈ problems, ∃ key value fault, (key, value) ∈ entries ∧
      text (.scalar key) = .fault fault ∧
        problem = ⟨[keyStep key, .name "[key]"], fault⟩ := by
  induction entries generalizing problems with
  | nil => cases reads
  | cons entry rest ih =>
      obtain ⟨key, value⟩ := entry
      rw [fields_any_cons] at reads
      have below : ∀ {others}, fields any (.dict rest) = .invalid others →
          ∀ problem ∈ others, ∃ key' value' fault, (key', value') ∈ (key, value) :: rest ∧
            text (.scalar key') = .fault fault ∧
              problem = ⟨[keyStep key', .name "[key]"], fault⟩ := by
        intro others later problem member
        obtain ⟨key', value', fault, inside, unread, same⟩ := (ih later).2 problem member
        exact ⟨key', value', fault, List.mem_cons_of_mem _ inside, unread, same⟩
      cases textKey_cases key with
      | inl named =>
          obtain ⟨name, named⟩ := named
          cases later : fields any (.dict rest) with
          | valid names =>
              rw [named, later] at reads
              cases reads
          | invalid others =>
              rw [named, later] at reads
              cases reads
              exact ⟨(ih later).1, below later⟩
      | inr unnamed =>
          obtain ⟨fault, unread, unnamed⟩ := unnamed
          have here : ∃ key' value' fault', (key', value') ∈ (key, value) :: rest ∧
              text (.scalar key') = .fault fault' ∧
                (⟨[keyStep key, .name "[key]"], fault⟩ : Problem) =
                  ⟨[keyStep key', .name "[key]"], fault'⟩ :=
            ⟨key, value, fault, List.mem_cons_self, unread, rfl⟩
          cases later : fields any (.dict rest) with
          | valid names =>
              rw [unnamed, later] at reads
              cases reads
              simpa using here
          | invalid others =>
              rw [unnamed, later] at reads
              cases reads
              refine ⟨by simp, ?_⟩
              simp only [List.singleton_append, List.forall_mem_cons]
              exact ⟨here, below later⟩

end Reader

namespace Definition

/-- What reading a part of a definition may stop with: a fault whose message can be shown if the
numbers of the part are short, problems with keys of the mappings that the part bears, or a number
that is not short. -/
def Blames (short : Prop) (bears : String → Dict → Prop) : ParseFault → Prop
  | .rule fault => short → fault.shown.isShown = true
  | .keys problems =>
    problems ≠ [] ∧ ∀ problem ∈ problems, ∃ field entries, bears field entries ∧
      Misnames field entries problem
  | .unshown => ¬ short

section Parts

variable {short : Prop} {bears : String → Dict → Prop}

theorem refuse_blames {α : Type} {fault : DefinitionFault}
    (shown : short → fault.shown.isShown = true) :
    FailsOnly (Blames short bears) (refuse fault : Parsed α) :=
  FailsOnly.error shown

theorem textKeyed_blames {field : String} {entries : Dict} (borne : bears field entries) :
    FailsOnly (Blames short bears) (textKeyed field entries) := by
  intro fault fails
  unfold textKeyed at fails
  cases reads : Reader.fields Reader.any (.dict entries) with
  | valid names =>
      have whole : Reader.dict (.dict entries) =
          (fun fields => Dict.ofEntries (Dict.ofFields fields)) <$> Checked.valid names :=
        congrArg _ reads
      rw [whole] at fails
      cases fails
  | invalid problems =>
      have whole : Reader.dict (.dict entries) =
          (fun fields => Dict.ofEntries (Dict.ofFields fields)) <$> Checked.invalid problems :=
        congrArg _ reads
      rw [whole] at fails
      cases fails
      obtain ⟨some, each⟩ := Reader.fields_any_invalid reads
      refine ⟨by simpa using some, ?_⟩
      intro problem member
      obtain ⟨inner, inside, rfl⟩ := List.mem_map.mp member
      obtain ⟨key, value, fault, holds, unread, rfl⟩ := each inner inside
      exact ⟨field, entries, borne, key, value, fault, holds, unread, rfl⟩

/-! ### The head of a definition -/

theorem parseName_blames {definition : Dict} (shown : short → Value.holdShown definition = true) :
    FailsOnly (Blames short bears) (parseName definition) := by
  unfold parseName
  split
  · exact refuse_blames fun _ => rfl
  · exact refuse_blames fun _ => rfl
  · exact refuse_blames fun _ => rfl
  · split
    · exact refuse_blames fun _ => rfl
    · split
      · exact refuse_blames fun _ => rfl
      · exact FailsOnly.ok _
  · next found => exact refuse_blames fun few => Value.isShown_of_field? (shown few) found

theorem parseVersion_blames {definition : Dict} :
    FailsOnly (Blames short bears) (parseVersion definition) := by
  unfold parseVersion
  split
  · exact FailsOnly.ok _
  · exact FailsOnly.ok _
  · split
    · exact refuse_blames fun _ => rfl
    · exact FailsOnly.ok _
  · exact refuse_blames fun _ => rfl

theorem parseMetadata_blames {definition : Dict} :
    FailsOnly (Blames short bears) (parseMetadata definition) := by
  unfold parseMetadata
  split
  · exact FailsOnly.ok _
  · exact FailsOnly.ok _
  · exact FailsOnly.ok _
  · exact refuse_blames fun _ => rfl

/-- Steps under keys stop the reader with what the keys and the ids inside show. -/
theorem keyedSteps_blames {entries : List (Scalar × Value)}
    (shown : short → Value.holdShown entries = true) :
    FailsOnly (Blames short bears) (keyedSteps entries) := by
  induction entries with
  | nil => exact FailsOnly.ok _
  | cons entry rest ih =>
      obtain ⟨key, value⟩ := entry
      simp only [Value.holdShown, Bool.and_eq_true] at shown
      have later := ih fun few => (shown few).2
      simp only [keyedSteps, refuse, bind, Except.bind]
      split
      · split
        · split
          · exact later.bind fun _ _ => FailsOnly.ok _
          · next fields opened =>
              have inside : short → Value.holdShown fields = true := by
                intro few
                have whole := Value.isShown_opened (shown few).1.2
                rw [opened] at whole
                exact whole
              split
              · next nested found =>
                  split
                  · exact later.bind fun _ _ => FailsOnly.ok _
                  · split
                    · next unshown =>
                        apply FailsOnly.error
                        intro few
                        rw [Value.isShown_of_field? (inside few) found] at unshown
                        cases unshown
                    · exact refuse_blames fun _ => rfl
              · exact later.bind fun _ _ => FailsOnly.ok _
          · exact refuse_blames fun _ => rfl
        · exact refuse_blames fun few => (shown few).1.1
      · exact refuse_blames fun few => (shown few).1.1

/-- Listed steps stop the reader with what their ids show. -/
theorem listedSteps_blames {items : List Value} (shown : short → Value.areShown items = true)
    {index : Nat} {seen : List String} :
    FailsOnly (Blames short bears) (listedSteps index seen items) := by
  induction items generalizing index seen with
  | nil => exact FailsOnly.ok _
  | cons item rest ih =>
      simp only [Value.areShown, Bool.and_eq_true] at shown
      simp only [listedSteps, refuse, bind, Except.bind]
      split
      · next fields opened =>
          split
          · exact refuse_blames fun _ => rfl
          · split
            · split
              · exact refuse_blames fun _ => rfl
              · exact (ih fun few => (shown few).2).bind fun _ _ => FailsOnly.ok _
            · exact refuse_blames fun _ => rfl
          · next found =>
              apply refuse_blames
              intro few
              have whole := Value.isShown_opened (shown few).1
              rw [opened] at whole
              exact Value.isShown_of_field? whole found
      · exact refuse_blames fun _ => rfl

theorem parseStepIds_blames {definition : Dict}
    (shown : short → Value.holdShown definition = true) :
    FailsOnly (Blames short bears) (parseStepIds definition) := by
  have name : short → ((definition.field? "name").getD .null).isShown = true := by
    intro few
    cases found : definition.field? "name" with
    | none => rfl
    | some name => exact Value.isShown_of_field? (shown few) found
  have inside : ∀ declaring, (definition.field? "steps").map Value.opened = some declaring →
      short → declaring.isShown = true := by
    intro declaring opened few
    obtain ⟨steps, found, rfl⟩ := Option.map_eq_some_iff.mp opened
    exact Value.isShown_opened (Value.isShown_of_field? (shown few) found)
  unfold parseStepIds
  split
  · exact refuse_blames fun _ => rfl
  · exact refuse_blames fun _ => rfl
  · exact refuse_blames name
  · exact refuse_blames name
  · next opened => exact listedSteps_blames (inside _ opened)
  · next opened => exact keyedSteps_blames (inside _ opened)
  · exact refuse_blames fun _ => rfl

theorem parseHeader_blames {definition : Dict}
    (shown : short → Value.holdShown definition = true) :
    FailsOnly (Blames short bears) (parseHeader definition) := by
  refine (parseName_blames shown).bind fun _ _ => ?_
  refine parseVersion_blames.bind fun _ _ => ?_
  refine parseMetadata_blames.bind fun _ _ => ?_
  exact (parseStepIds_blames shown).bind fun _ _ => FailsOnly.ok _

/-! ### Steps -/

section Fields

variable {id : String} {fields : Dict}

theorem parseReference_blames {field : String} :
    FailsOnly (Blames short bears) (parseReference id fields field) := by
  unfold parseReference
  split
  · exact FailsOnly.ok _
  · exact FailsOnly.ok _
  · split
    · split
      · exact FailsOnly.ok _
      · exact refuse_blames fun _ => rfl
    · exact refuse_blames fun _ => rfl

theorem parseTimeout_blames (shown : short → Value.holdShown fields = true) :
    FailsOnly (Blames short bears) (parseTimeout id fields) := by
  unfold parseTimeout
  split
  · exact FailsOnly.ok _
  · exact FailsOnly.ok _
  · split
    · exact FailsOnly.ok _
    · exact refuse_blames fun _ => rfl
  · next found => exact refuse_blames fun few => Value.isShown_of_field? (shown few) found

theorem parseRetryAttempts_blames (shown : short → Value.holdShown fields = true) :
    FailsOnly (Blames short bears) (parseRetryAttempts id fields) := by
  unfold parseRetryAttempts
  split
  · exact FailsOnly.ok _
  · exact FailsOnly.ok _
  · next found =>
      have count := fun few => Value.isShown_of_field? (shown few) found
      split
      · exact refuse_blames count
      · split
        · next unshown =>
            apply FailsOnly.error
            intro few
            have counted : (Scalar.int _).isShown = true := count few
            rw [counted] at unshown
            cases unshown
        · exact FailsOnly.ok _
  · next found => exact refuse_blames fun few => Value.isShown_of_field? (shown few) found

theorem parseParameters_blames : FailsOnly (Blames short bears) (parseParameters id fields) := by
  unfold parseParameters
  split
  · exact FailsOnly.ok _
  · exact FailsOnly.ok _
  · exact FailsOnly.ok _
  · exact refuse_blames fun _ => rfl

theorem parseConditionItems_blames {items : List Value}
    (shown : short → Value.areShown items = true) :
    FailsOnly (Blames short bears) (parseConditionItems id items) := by
  induction items with
  | nil => exact FailsOnly.ok _
  | cons item rest ih =>
      simp only [Value.areShown, Bool.and_eq_true] at shown
      simp only [parseConditionItems, refuse, bind, Except.bind]
      split
      · split
        · exact (ih fun few => (shown few).2).bind fun _ _ => FailsOnly.ok _
        · exact refuse_blames fun few => (shown few).1
      · exact refuse_blames fun few => (shown few).1

theorem parseConditions_blames (shown : short → Value.holdShown fields = true) :
    FailsOnly (Blames short bears) (parseConditions id fields) := by
  unfold parseConditions
  split
  · exact FailsOnly.ok _
  · exact FailsOnly.ok _
  · exact parseConditionItems_blames fun _ => rfl
  · next found =>
      exact parseConditionItems_blames fun few => Value.isShown_of_field? (shown few) found
  · exact refuse_blames fun _ => rfl

theorem parseStepHead_blames (shown : short → Value.holdShown fields = true) :
    FailsOnly (Blames short bears) (parseStepHead id fields) := by
  refine parseReference_blames.bind fun _ _ => ?_
  refine parseReference_blames.bind fun _ _ => ?_
  refine (parseTimeout_blames shown).bind fun _ _ => ?_
  exact (parseRetryAttempts_blames shown).bind fun _ _ => FailsOnly.ok _

/-- The parameters of a step are what the step bears; without any there is no key to blame. -/
theorem parameters_of_parseParameters {parameters : Dict}
    (reads : parseParameters id fields = .ok parameters) :
    parameters = [] ∨
      (fields.field? "parameters").or (fields.field? "config") = some (.dict parameters) := by
  unfold parseParameters at reads
  split at reads
  · cases reads
    exact .inl rfl
  · cases reads
    exact .inl rfl
  · next found =>
      cases reads
      exact .inr found
  · cases reads

theorem textKeyed_nil_blames (field : String) :
    FailsOnly (Blames short bears) (textKeyed field []) :=
  FailsOnly.ok _

theorem parseStep_blames (shown : short → Value.holdShown fields = true)
    (borne : ∀ parameters,
      (fields.field? "parameters").or (fields.field? "config") = some (.dict parameters) →
        bears "parameters" parameters) :
    FailsOnly (Blames short bears) (parseStep id fields) := by
  refine (parseStepHead_blames shown).bind fun _ _ => ?_
  refine parseParameters_blames.bind fun parameters reads => ?_
  refine (parseConditions_blames shown).bind fun _ _ => ?_
  refine FailsOnly.bind ?_ fun _ _ => FailsOnly.ok _
  cases parameters_of_parseParameters reads with
  | inl none =>
      rw [none]
      exact textKeyed_nil_blames "parameters"
  | inr held => exact textKeyed_blames (borne parameters held)

end Fields

theorem parseSteps_blames {steps : List (String × Dict)}
    (each : ∀ step ∈ steps, FailsOnly (Blames short bears) (parseStep step.1 step.2)) :
    FailsOnly (Blames short bears) (parseSteps steps) := by
  induction steps with
  | nil => exact FailsOnly.ok _
  | cons step rest ih =>
      obtain ⟨first, later⟩ := List.forall_mem_cons.mp each
      exact first.bind fun _ _ => (ih later).bind fun _ _ => FailsOnly.ok _

/-! ### Transitions -/

section Ends

variable {index : Nat} {known : List String}

theorem parseEndpoint_blames {fields : Dict} {endpoint : String} :
    FailsOnly (Blames short bears) (parseEndpoint index known fields endpoint) := by
  unfold parseEndpoint
  split
  · split
    · exact refuse_blames fun _ => rfl
    · split
      · exact FailsOnly.ok _
      · exact refuse_blames fun _ => rfl
  · exact refuse_blames fun _ => rfl

theorem parseTransitionCondition_blames {fields : Dict}
    (shown : short → Value.holdShown fields = true) :
    FailsOnly (Blames short bears) (parseTransitionCondition index fields) := by
  unfold parseTransitionCondition
  split
  · exact FailsOnly.ok _
  · exact FailsOnly.ok _
  · next found =>
      have given := fun few => Value.isShown_of_field? (shown few) found
      split
      · split
        · exact FailsOnly.ok _
        · exact refuse_blames given
      · exact refuse_blames given

theorem parseTransition_blames {item : Value} (shown : short → item.isShown = true)
    (borne : ∀ fields entries, item.opened = .dict fields →
      Dict.field? fields "metadata" = some (.dict entries) → bears "metadata" entries) :
    FailsOnly (Blames short bears) (parseTransition index known item) := by
  unfold parseTransition
  split
  · next fields opened =>
      have inside : short → Value.holdShown fields = true := by
        intro few
        have whole := Value.isShown_opened (shown few)
        rw [opened] at whole
        exact whole
      refine parseEndpoint_blames.bind fun _ _ => ?_
      refine parseEndpoint_blames.bind fun _ _ => ?_
      refine (parseTransitionCondition_blames inside).bind fun _ _ => ?_
      simp only [refuse, bind, Except.bind]
      split
      · exact (textKeyed_nil_blames "metadata").bind fun _ _ => FailsOnly.ok _
      · exact (textKeyed_nil_blames "metadata").bind fun _ _ => FailsOnly.ok _
      · next found =>
          exact (textKeyed_blames (borne fields _ opened found)).bind fun _ _ => FailsOnly.ok _
      · exact refuse_blames fun _ => rfl
  · exact refuse_blames fun _ => rfl

theorem parseTransitionItems_blames {items : List Value}
    (shown : short → Value.areShown items = true)
    (borne : ∀ item ∈ items, ∀ fields entries, item.opened = .dict fields →
      Dict.field? fields "metadata" = some (.dict entries) → bears "metadata" entries) :
    FailsOnly (Blames short bears) (parseTransitionItems index known items) := by
  induction items generalizing index with
  | nil => exact FailsOnly.ok _
  | cons item rest ih =>
      simp only [Value.areShown, Bool.and_eq_true] at shown
      obtain ⟨first, others⟩ := List.forall_mem_cons.mp borne
      refine (parseTransition_blames (fun few => (shown few).1) first).bind fun _ _ => ?_
      exact (ih (fun few => (shown few).2) others).bind fun _ _ => FailsOnly.ok _

end Ends

end Parts

/-! ### Definitions -/

/-- The fields of a step of a definition, its id included. -/
inductive HoldsStep (definition : Dict) : Dict → Prop where
  | listed {items : List Value} {item : Value} {fields : Dict} :
      (definition.field? "steps").map Value.opened = some (.list items) → item ∈ items →
      item.opened = .dict fields → HoldsStep definition fields
  | keyed {entries : Dict} {entry : Scalar × Value} {fields : Dict} :
      (definition.field? "steps").map Value.opened = some (.dict entries) → entry ∈ entries →
      entry.2.opened = .dict fields → HoldsStep definition fields

/-- The mappings of a definition that have to have texts for keys, each with the field in which
problems with it are told. -/
inductive Bears (definition : Dict) : String → Dict → Prop where
  | metadata {entries : Dict} :
      definition.field? "metadata" = some (.dict entries) → Bears definition "metadata" entries
  | parameters {fields entries : Dict} :
      HoldsStep definition fields →
      (fields.field? "parameters").or (fields.field? "config") = some (.dict entries) →
      Bears definition "parameters" entries
  | transition {items : List Value} {item : Value} {fields entries : Dict} :
      (definition.field? "transitions").map Value.opened = some (.list items) → item ∈ items →
      item.opened = .dict fields → fields.field? "metadata" = some (.dict entries) →
      Bears definition "metadata" entries

variable {definition : Dict}

theorem isShown_of_declaring (shown : Value.holdShown definition = true) {name : String}
    {declaring : Value} (opened : (definition.field? name).map Value.opened = some declaring) :
    declaring.isShown = true := by
  obtain ⟨held, found, rfl⟩ := Option.map_eq_some_iff.mp opened
  exact Value.isShown_opened (Value.isShown_of_field? shown found)

theorem HoldsStep.holdShown {fields : Dict} (holds : HoldsStep definition fields)
    (shown : Value.holdShown definition = true) : Value.holdShown fields = true := by
  cases holds with
  | listed opened member same =>
      have item := Value.areShown_iff.mp (isShown_of_declaring shown opened) _ member
      have whole := Value.isShown_opened item
      rw [same] at whole
      exact whole
  | keyed opened member same =>
      have entry := Value.holdShown_iff.mp (isShown_of_declaring shown opened) _ member
      have whole := Value.isShown_opened entry.2
      rw [same] at whole
      exact whole

theorem listedSteps_fields {index : Nat} {seen : List String} {items : List Value}
    {steps : List (String × Dict)} (reads : listedSteps index seen items = .ok steps) :
    ∀ step ∈ steps, ∃ item ∈ items, ∃ fields : Dict, item.opened = .dict fields ∧
      step.2 = withoutId fields := by
  induction items generalizing index seen steps with
  | nil =>
      cases reads
      simp
  | cons item rest ih =>
      obtain ⟨fields, id, others, opened, _, _, _, later, rfl⟩ := listedSteps_cons reads
      intro step member
      cases List.mem_cons.mp member with
      | inl same =>
          subst same
          exact ⟨item, List.mem_cons_self, fields, opened, rfl⟩
      | inr inside =>
          obtain ⟨other, listed, holds⟩ := ih later step inside
          exact ⟨other, List.mem_cons_of_mem _ listed, holds⟩

theorem keyedSteps_fields {entries : List (Scalar × Value)} {steps : List (String × Dict)}
    (reads : keyedSteps entries = .ok steps) :
    ∀ step ∈ steps, ∃ entry ∈ entries, ∃ fields : Dict, step.2 = withoutId fields ∧
      (fields = [] ∨ entry.2.opened = .dict fields) := by
  induction entries generalizing steps with
  | nil =>
      cases reads
      simp
  | cons entry rest ih =>
      obtain ⟨id, fields, others, _, _, holds, _, later, rfl⟩ := keyedSteps_cons reads
      intro step member
      cases List.mem_cons.mp member with
      | inl same =>
          subst same
          exact ⟨entry, List.mem_cons_self, fields, rfl, holds.imp_left And.right⟩
      | inr inside =>
          obtain ⟨other, keyed, holds⟩ := ih later step inside
          exact ⟨other, List.mem_cons_of_mem _ keyed, holds⟩

/-- A step is read from the fields of a step of the definition, or from none. -/
theorem parseStepIds_fields {steps : List (String × Dict)}
    (reads : parseStepIds definition = .ok steps) :
    ∀ step ∈ steps, ∃ fields : Dict, step.2 = withoutId fields ∧
      (fields = [] ∨ HoldsStep definition fields) := by
  unfold parseStepIds at reads
  split at reads
  · cases reads
  · cases reads
  · cases reads
  · cases reads
  · next opened =>
      intro step member
      obtain ⟨item, inside, fields, same, raw⟩ := listedSteps_fields reads step member
      exact ⟨fields, raw, .inr (.listed opened inside same)⟩
  · next opened =>
      intro step member
      obtain ⟨entry, inside, fields, raw, holds⟩ := keyedSteps_fields reads step member
      exact ⟨fields, raw, holds.imp_right (.keyed opened inside)⟩
  · cases reads

/-- What reading a definition stops with. -/
abbrev Faults (definition : Dict) : ParseFault → Prop :=
  Blames (Value.holdShown definition = true) (Bears definition)

theorem parseStep_faults {fields : Dict} (holds : fields = [] ∨ HoldsStep definition fields)
    (id : String) : FailsOnly (Faults definition) (parseStep id fields) := by
  cases holds with
  | inl none =>
      subst none
      exact parseStep_blames (fun _ => rfl) nofun
  | inr held =>
      apply parseStep_blames held.holdShown
      intro parameters found
      exact .parameters held found

theorem parseSteps_faults {steps : List (String × Dict)}
    (reads : parseStepIds definition = .ok steps) :
    FailsOnly (Faults definition) (parseSteps steps) := by
  apply parseSteps_blames
  intro step member
  obtain ⟨fields, raw, holds⟩ := parseStepIds_fields reads step member
  rw [raw, parseStep_withoutId]
  exact parseStep_faults holds step.1

theorem parseTransitions_faults {known : List String} :
    FailsOnly (Faults definition) (parseTransitions definition known) := by
  unfold parseTransitions
  split
  · exact FailsOnly.ok _
  · exact FailsOnly.ok _
  · next opened =>
      apply parseTransitionItems_blames
      · intro few
        exact isShown_of_declaring few opened
      · intro item member fields entries same found
        exact .transition opened member same found
  · exact refuse_blames fun _ => rfl

theorem metadata_of_parseMetadata {metadata : Dict}
    (reads : parseMetadata definition = .ok metadata) :
    metadata = [] ∨ definition.field? "metadata" = some (.dict metadata) := by
  unfold parseMetadata at reads
  split at reads
  · cases reads
    exact .inl rfl
  · cases reads
    exact .inl rfl
  · next found =>
      cases reads
      exact .inr found
  · cases reads

theorem parseDict_faults : FailsOnly (Faults definition) (parseDict definition) := by
  refine (parseHeader_blames id).bind fun header reads => ?_
  obtain ⟨name, version, metadata, steps⟩ := header
  obtain ⟨_, _, reads⟩ := then_eq_ok.mp reads
  obtain ⟨_, _, reads⟩ := then_eq_ok.mp reads
  obtain ⟨_, notes, reads⟩ := then_eq_ok.mp reads
  obtain ⟨_, ids, reads⟩ := then_eq_ok.mp reads
  cases reads
  refine (parseSteps_faults ids).bind fun _ _ => ?_
  refine parseTransitions_faults.bind fun _ _ => ?_
  refine FailsOnly.bind ?_ fun _ _ => FailsOnly.ok _
  cases metadata_of_parseMetadata notes with
  | inl none =>
      rw [none]
      exact textKeyed_nil_blames "metadata"
  | inr held => exact textKeyed_blames (.metadata held)

/-! ## Sources -/

/-- The bytes of a source that is given as bytes. -/
def Source.bytes? : Source → Option (List UInt8)
  | .document (.bytes data) | .bytes data => some data
  | _ => none

/-- What the text of a source is read as, if it has a text. -/
def Source.json? : Source → Option (Except Json.ReadError Value)
  | .document (.text text) => some (Json.read text)
  | source => (source.bytes?.bind Text.decodeJsonBytes?).map Json.readDecoded

/-- A failure of reading a source that is no error in a definition. -/
inductive Source.Escapes (source : Source) : Failure → Prop where
  /-- The bytes are no text. -/
  | undecodable {data : List UInt8} :
      source.bytes? = some data → Text.decodeJsonBytes? data = none →
      source.Escapes (.fault .undecodable)
  /-- A number of the text has too many digits. -/
  | tooLong {digits : Nat} :
      source.json? = some (.error (.integerTooLong digits)) →
      source.Escapes (.integer (.tooLong digits))
  /-- A number of the definition has too many digits to be shown. -/
  | unshown {definition : Dict} :
      source.decode = .ok (.inr (.dict definition)) → Value.holdShown definition = false →
      source.Escapes (.fault .unshown)
  /-- Keys of mappings of the definition are no texts. -/
  | keys {definition : Dict} {problems : List Problem} :
      source.decode = .ok (.inr (.dict definition)) → problems ≠ [] →
      (∀ problem ∈ problems, ∃ field entries, Bears definition field entries ∧
        Misnames field entries problem) →
      source.Escapes (.invalid problems)

/-- What reading a source fails with: an error in the definition, or a failure besides. -/
def Source.Fails (source : Source) (failure : Failure) : Prop :=
  (∃ error, failure = .definition error) ∨ source.Escapes failure

theorem decodeText_fails {source : Source} {read : String → Except Json.ReadError Value}
    {text raw : String} (reads : source.json? = some (read text)) :
    FailsOnly source.Fails (decodeText read text raw) := by
  unfold decodeText
  split
  · exact FailsOnly.ok _
  · exact FailsOnly.error (.inl ⟨_, rfl⟩)
  · next found =>
      rw [found] at reads
      exact FailsOnly.error (.inr (.tooLong reads))

theorem decodeBytes_fails {source : Source} {data : List UInt8}
    (holds : source.bytes? = some data)
    (reads : source.json? = (Text.decodeJsonBytes? data).map Json.readDecoded) :
    FailsOnly source.Fails (decodeBytes data) := by
  unfold decodeBytes
  split
  · next text decoded =>
      rw [decoded] at reads
      exact decodeText_fails reads
  · next undecoded => exact FailsOnly.error (.inr (.undecodable holds undecoded))

theorem decode_fails (source : Source) : FailsOnly source.Fails source.decode := by
  unfold Source.decode
  split
  · exact FailsOnly.ok _
  · exact (decodeText_fails rfl).map _
  · exact (decodeBytes_fails rfl rfl).map _
  · exact FailsOnly.ok _
  · exact (decodeBytes_fails rfl rfl).map _

theorem parse_fails (source : Source) : FailsOnly source.Fails (parse source) := by
  refine (decode_fails source).bind fun decoded decodes => ?_
  split
  · exact FailsOnly.ok _
  · next definition =>
      split
      · exact FailsOnly.ok _
      · next fault reads =>
          have blames : Faults definition (.rule fault) := parseDict_faults _ reads
          split
          · next unshown =>
              apply FailsOnly.error
              refine .inr (.unshown decodes ?_)
              by_contra shown
              rw [blames (by simpa using shown)] at unshown
              cases unshown
          · exact FailsOnly.error (.inl ⟨_, rfl⟩)
      · next problems reads =>
          have blames : Faults definition (.keys problems) := parseDict_faults _ reads
          exact FailsOnly.error (.inr (.keys decodes blames.1 blames.2))
      · next reads =>
          have blames : ¬ Value.holdShown definition = true := parseDict_faults _ reads
          exact FailsOnly.error (.inr (.unshown decodes (by simpa using blames)))
  · exact FailsOnly.error (.inl ⟨_, rfl⟩)

/-- A source is read as a definition, or an error tells what is wrong with the definition, or one of
four gaps is met. -/
theorem parse_reads_or_tells (source : Source) :
    (∃ definition, parse source = .ok definition) ∨
      (∃ error, parse source = .error (.definition error)) ∨
        ∃ failure, parse source = .error failure ∧ source.Escapes failure := by
  cases reads : parse source with
  | ok definition => exact .inl ⟨definition, rfl⟩
  | error failure =>
      cases parse_fails source failure reads with
      | inl told =>
          obtain ⟨error, rfl⟩ := told
          exact .inr (.inl ⟨error, rfl⟩)
      | inr escapes => exact .inr (.inr ⟨failure, rfl, escapes⟩)

/-- The gaps are met: of bytes that are no text no error in a definition is told. -/
theorem not_reads_or_tells :
    ¬ ∀ source, (∃ definition, parse source = .ok definition) ∨
      ∃ error, parse source = .error (.definition error) := by
  intro every
  have undecoded : parse (.bytes [0x7B, 0x22, 0xFF]) = .error (.fault .undecodable) := by
    have garbled : Text.decodeJsonBytes? [0x7B, 0x22, 0xFF] = none := by decide +kernel
    simp [parse, Source.decode, decodeBytes, garbled, Functor.map, Except.map, bind, Except.bind]
  cases every (.bytes [0x7B, 0x22, 0xFF]) with
  | inl reads =>
      obtain ⟨definition, reads⟩ := reads
      rw [undecoded] at reads
      cases reads
  | inr tells =>
      obtain ⟨error, tells⟩ := tells
      rw [undecoded] at tells
      cases tells

/-- Nor is one told of parameters under a key that is no text. -/
example :
    let step := Value.ofFields [("id", .text "a"), ("parameters", .dict [(.int 1, .text "x")])]
    parse (.document (.ofFields [("name", .text "keyed"), ("steps", .list [step])])) =
      .error (.invalid [⟨[.name "parameters", .index 1, .name "[key]"], .notText⟩]) := by rfl

/-! ## Mappings of JSON values -/

theorem isJson_of_declaring (json : Value.holdJson definition = true) {name : String}
    {declaring : Value} (opened : (definition.field? name).map Value.opened = some declaring) :
    declaring.isJson = true := by
  obtain ⟨held, found, rfl⟩ := Option.map_eq_some_iff.mp opened
  have inside := Value.isJson_of_field? json found
  rw [Value.opened_of_isJson inside]
  exact inside

theorem HoldsStep.holdJson {fields : Dict} (holds : HoldsStep definition fields)
    (json : Value.holdJson definition = true) : Value.holdJson fields = true := by
  cases holds with
  | listed opened member same =>
      have item := Value.areJson_iff.mp (isJson_of_declaring json opened) _ member
      rw [Value.opened_of_isJson item] at same
      rw [same] at item
      exact item
  | keyed opened member same =>
      have entry := Value.isJson_of_mem (isJson_of_declaring json opened) member
      rw [Value.opened_of_isJson entry] at same
      rw [same] at entry
      exact entry

/-- Of a JSON value all mappings have texts for keys. -/
theorem Bears.keyedByText {field : String} {entries : Dict} (borne : Bears definition field entries)
    (json : Value.holdJson definition = true) : entries.KeyedByText := by
  apply Value.keyedByText_of_holdJson
  cases borne with
  | metadata found => exact Value.isJson_of_field? json found
  | parameters holds found =>
      rw [parameters_or_config] at found
      exact Value.isJson_of_field? (holds.holdJson json) found
  | transition opened member same found =>
      have item := Value.areJson_iff.mp (isJson_of_declaring json opened) _ member
      rw [Value.opened_of_isJson item] at same
      rw [same] at item
      exact Value.isJson_of_field? item found

end Definition

end Workflow
