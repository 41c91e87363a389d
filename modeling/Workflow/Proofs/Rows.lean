import Workflow.Proofs.RoundTrip
import Workflow.Proofs.TimeText
import Workflow.Store.Table

/-!
# Rows and the instances they keep

An instance whose definition was read and whose data a JSON text can hold is kept by a row: the row
is made, and what is read back from it is an equal instance.
-/

namespace Workflow

open Time

/-! ## Readers of written values -/

@[simp] theorem Checked.map_valid {α β : Type} (function : α → β) (value : α) :
    function <$> Checked.valid value = .valid (function value) := rfl

@[simp] theorem Checked.seq_valid {α β : Type} (function : α → β) (value : α) :
    Checked.valid function <*> .valid value = .valid (function value) := rfl

namespace Reader

section Fields

variable {α : Type} {fields : List (String × Value)} {name : String} {value : Value}
  {reader : Reader α} {result : α}

theorem required_ofFields (found : fields.lookup name = some value)
    (reads : reader value = .valid result) :
    required (Dict.ofFields fields) name reader = .valid result := by
  simp only [required, Dict.field?_ofFields, found, reads, Checked.under]

theorem defaulted_ofFields {default : α} (found : fields.lookup name = some value)
    (reads : reader value = .valid result) :
    defaulted (Dict.ofFields fields) name reader default = .valid result := by
  simp only [defaulted, Dict.field?_ofFields, found, reads, Checked.under]

end Fields

theorem text_text (content : String) : text (.text content) = .valid content := rfl

theorem state_name (value : State) : state (.text value.name) = .valid value := by
  simp only [state, State.ofName?_name]

theorem timestamp_text {content : String} {time : Timestamp}
    (reads : Timestamp.read? content = some time) :
    timestamp (.text content) = .valid time := by
  have asked : timestamp (.text content) =
      timestampOr .timestampText (Timestamp.read? content) := rfl
  rw [asked, reads, timestampOr]

theorem items_eq_valid {α : Type} {reader : Reader α} {index : Nat} {sources : List Value}
    {values : List α}
    (reads : List.Forall₂ (fun source value => reader source = .valid value) sources values) :
    items reader index sources = .valid values := by
  induction reads generalizing index with
  | nil => rfl
  | cons first _ ih =>
      simp only [items, first, ih, Checked.under, Checked.map_valid, Checked.seq_valid]

end Reader

/-! ## Texts -/

namespace Value

/-- A text, or null. -/
def IsOptionalText (value : Value) : Prop :=
  ∃ text?, value = .ofText? text?

theorem IsOptionalText.reads {value : Value} (isText : value.IsOptionalText) :
    Reader.optionalText value = .valid value := by
  obtain ⟨text?, same⟩ := isText
  rw [same]
  cases text? <;> rfl

/-- All values of a list are texts. -/
def AreTexts (items : List Value) : Prop :=
  ∃ texts : List String, items = texts.map .text

variable {items : List Value}

theorem AreTexts.reads (areTexts : AreTexts items) :
    Reader.list .textValue (.list items) = .valid items := by
  obtain ⟨texts, same⟩ := areTexts
  apply Reader.items_eq_valid
  rw [same, List.forall₂_map_left_iff, List.forall₂_map_right_iff, List.forall₂_same]
  intro text _
  rfl

theorem AreTexts.isJson (areTexts : AreTexts items) : (Value.list items).isJson = true := by
  obtain ⟨texts, same⟩ := areTexts
  rw [same]
  exact areJson_ofTexts texts

end Value

/-! ## Records -/

theorem StepFailure.ofRecord_toRecord {failure : StepFailure} (minutes : failure.failedAt.OnMinutes)
    (now : Timestamp) : StepFailure.ofRecord now failure.toRecord = .valid failure := by
  have reads := Reader.timestamp_text (Timestamp.read?_zuluText minutes)
  simp only [toRecord, Value.ofFields, ofRecord, Reader.record]
  rw [Reader.required_ofFields ?_ (Reader.text_text failure.step),
    Reader.required_ofFields ?_ (Reader.text_text failure.error),
    Reader.defaulted_ofFields ?_ reads]
  · simp only [Checked.map_valid, Checked.seq_valid]
  all_goals simp [List.lookup_cons]

namespace Instance

variable {inst : Instance}

/-- An instance that a record can hold.  Its definition was read, its data and those of its
definition are values that a JSON text can hold, and what names a step is a text. -/
structure Regular (inst : Instance) : Prop where
  read : inst.definition.IsRead
  distinct : inst.definition.stepIds.Nodup
  json : inst.definition.isJson = true
  data : Value.holdJson inst.data = true
  currentStep : inst.currentStep.IsOptionalText
  completed : Value.AreTexts inst.completed
  skipped : Value.AreTexts inst.skipped
  errorMessage : inst.errorMessage.IsOptionalText
  failedAt : ∀ failure ∈ inst.failures, failure.failedAt.OnMinutes

/-- The fields of an instance's record, with the given texts for the times of its making and of its
last change. -/
def fieldsAt (inst : Instance) (created updated : String) : List (String × Value) :=
  [("id", .text inst.id), ("definition_name", .text inst.definition.name),
    ("definition_version", .text inst.definition.version),
    ("definition", .dict inst.definition.toDict), ("state", .text inst.state.name),
    ("data", .dict inst.data), ("current_step_id", inst.currentStep),
    ("completed_steps", .list inst.completed),
    ("failed_steps", .list (inst.failures.map (·.toRecord))),
    ("skipped_steps", .list inst.skipped),
    ("error_message", inst.errorMessage), ("created_at", .text created),
    ("updated_at", .text updated)]

theorem fieldOr_eq {record : Dict} {name : String} {value nothing : Value}
    (found : record.field? name = some value) (empty : value.truthy = false → value = nothing) :
    fieldOr record name nothing = value := by
  simp only [fieldOr, found]
  split
  · rfl
  · next false => exact (empty (by simpa using false)).symm

/-- An instance is read from its fields. -/
theorem ofFields_eq_valid (regular : inst.Regular) (now : Timestamp) {created updated : String}
    {createdAt updatedAt : Timestamp} (reads : Timestamp.read? created = some createdAt)
    (reads' : Timestamp.read? updated = some updatedAt) :
    ofFields now (.valid inst.definition) (Dict.ofFields
      [("id", .text inst.id), ("state", .text inst.state.name), ("data", .dict inst.data),
        ("current_step_id", inst.currentStep), ("completed_steps", .list inst.completed),
        ("failed_steps", .list (inst.failures.map (·.toRecord))),
        ("skipped_steps", .list inst.skipped), ("error_message", inst.errorMessage),
        ("created_at", .text created), ("updated_at", .text updated)]) =
      .valid { inst with createdAt, updatedAt } := by
  have failures : Reader.list (StepFailure.ofRecord now) (.list (inst.failures.map (·.toRecord))) =
      .valid inst.failures := by
    apply Reader.items_eq_valid
    rw [List.forall₂_map_left_iff, List.forall₂_same]
    intro failure member
    exact StepFailure.ofRecord_toRecord (regular.failedAt failure member) now
  have data := Reader.dict_eq_valid (Value.keyedByText_of_holdJson regular.data)
  rw [ofFields, Reader.required_ofFields ?_ (Reader.text_text inst.id),
    Reader.defaulted_ofFields ?_ (Reader.state_name inst.state), Reader.defaulted_ofFields ?_ data,
    Reader.defaulted_ofFields ?_ regular.currentStep.reads,
    Reader.defaulted_ofFields ?_ regular.completed.reads, Reader.defaulted_ofFields ?_ failures,
    Reader.defaulted_ofFields ?_ regular.skipped.reads,
    Reader.defaulted_ofFields ?_ regular.errorMessage.reads,
    Reader.defaulted_ofFields ?_ (Reader.timestamp_text reads),
    Reader.defaulted_ofFields ?_ (Reader.timestamp_text reads')]
  · simp only [Checked.map_valid, Checked.seq_valid]
  all_goals simp [List.lookup_cons]

/-- An instance is read from its record, with the times that the texts stand for. -/
theorem ofRecord_fieldsAt (regular : inst.Regular) (now : Timestamp) {created updated : String}
    {createdAt updatedAt : Timestamp} (reads : Timestamp.read? created = some createdAt)
    (reads' : Timestamp.read? updated = some updatedAt) :
    ofRecord (Dict.ofFields (inst.fieldsAt created updated)) now =
      .ok { inst with createdAt, updatedAt } := by
  have parsed := Definition.parse_document_toDict regular.read.wellFormed regular.read.regular
    regular.distinct regular.json
  have whole := ofFields_eq_valid regular now reads reads'
  have field := Dict.field?_ofFields (inst.fieldsAt created updated)
  generalize Dict.ofFields (inst.fieldsAt created updated) = record at field
  have data : fieldOr record "data" (.dict []) = .dict inst.data :=
    fieldOr_eq (by simp [field, fieldsAt, List.lookup_cons]) (by simp [Value.truthy])
  have completed : fieldOr record "completed_steps" (.list []) = .list inst.completed :=
    fieldOr_eq (by simp [field, fieldsAt, List.lookup_cons]) (by simp [Value.truthy])
  have failures : fieldOr record "failed_steps" (.list []) =
      .list (inst.failures.map (·.toRecord)) :=
    fieldOr_eq (by simp [field, fieldsAt, List.lookup_cons]) (by simp [Value.truthy])
  have skipped : fieldOr record "skipped_steps" (.list []) = .list inst.skipped :=
    fieldOr_eq (by simp [field, fieldsAt, List.lookup_cons]) (by simp [Value.truthy])
  have state : State.ofValue (.text inst.state.name) = .ok inst.state := by
    simp [State.ofValue, Value.text?, State.ofName?_name]
  simp [ofRecord, recordField, field, fieldsAt, List.lookup_cons, parsed, state, data, completed,
    failures, skipped, whole, Checked.toExcept, bind, Except.bind]

/-- An instance that a row can keep: a record can hold it, and the times of its making and of its
last change have an offset and a form in universal time. -/
structure Storable (inst : Instance) : Prop extends Regular inst where
  createdAt : inst.createdAt.offset.isSome ∧ inst.createdAt.HasUniversal
  updatedAt : inst.updatedAt.offset.isSome ∧ inst.updatedAt.HasUniversal

/-- An instance equals one of which only the times are written on other clocks. -/
theorem equals_of_same {createdAt updatedAt : Timestamp}
    (created : inst.createdAt.same createdAt = true)
    (updated : inst.updatedAt.same updatedAt = true) :
    inst.equals { inst with createdAt, updatedAt } = true := by
  have paired : inst.failures.zip inst.failures =
      inst.failures.map fun failure => (failure, failure) := by
    have mapped :=
      @List.zip_map' _ _ _ (fun failure => failure) (fun failure => failure) inst.failures
    rwa [List.map_id'] at mapped
  simp [equals, created, updated, paired, Timestamp.same_self]

theorem areJson_failures (failures : List StepFailure) :
    (Value.list (failures.map (·.toRecord))).isJson = true := by
  simp only [Value.isJson, Value.areJson_iff, List.forall_mem_map]
  intro failure _
  apply Value.holdJson_ofFields
  · simp
  · simp [Value.isJson, Scalar.isJson]

end Instance

/-! ## Rows -/

namespace Row

variable {inst : Instance}

theorem column_eq_ok {value : Value} (json : value.isJson = true) :
    column value = .ok (Json.render value) := by
  rw [column, Json.write_eq_render json]
  rfl

theorem columnValue_render {value : Value} (json : value.isJson = true) :
    columnValue (Json.render value) = .ok value := by
  rw [columnValue, Json.read_render json]
  rfl

theorem textColumn_ofText? (text? : Option String) : textColumn (.ofText? text?) = .ok text? := by
  cases text? <;> rfl

theorem text?_ofText? (text? : Option String) : (Value.ofText? text?).text? = text? := by
  cases text? <;> rfl

theorem universalText_eq_ok {time universal : Timestamp}
    (placed : time.toUniversal = .ok universal) :
    universalText time = .ok universal.text := by
  simp only [universalText, placed]

/-- What a row keeps of an instance: what it is found and put in order by, and all the rest, so that
an equal instance is read back. -/
structure Keeps (row : Row) (inst : Instance) : Prop where
  id : row.id = inst.id
  definitionName : row.definitionName = inst.definition.name
  state : row.state = inst.state.name
  createdAt : ∃ universal, inst.createdAt.toUniversal = .ok universal ∧
    row.createdAt = universal.text
  aware : inst.createdAt.offset.isSome
  restored : ∀ now, ∃ kept, row.toInstance now = .ok kept ∧ inst.equals kept = true

/-- A row is made of an instance that one can keep, and keeps it. -/
theorem keeps_of_storable (storable : inst.Storable) :
    ∃ row, ofInstance inst = .ok row ∧ row.Keeps inst := by
  obtain ⟨regular, ⟨aware, created, placed⟩, aware', updated, placed'⟩ := storable
  obtain ⟨step?, current⟩ := regular.currentStep
  obtain ⟨message?, message⟩ := regular.errorMessage
  have definition : (Value.dict inst.definition.toDict).isJson = true :=
    Definition.holdJson_toDict regular.json
  have data : (Value.dict inst.data).isJson = true := regular.data
  have failures := Instance.areJson_failures inst.failures
  have completed := regular.completed.isJson
  have skipped := regular.skipped.isJson
  have row : ofInstance inst = .ok
      { id := inst.id, definitionName := inst.definition.name
        definitionVersion := inst.definition.version
        definition := Json.render (.dict inst.definition.toDict), state := inst.state.name
        data := Json.render (.dict inst.data), currentStep := step?
        completed := Json.render (.list inst.completed)
        failures := Json.render (.list (inst.failures.map (·.toRecord)))
        skipped := Json.render (.list inst.skipped), errorMessage := message?
        createdAt := created.text, updatedAt := updated.text } := by
    simp only [ofInstance, column_eq_ok definition, column_eq_ok data, column_eq_ok failures,
      column_eq_ok completed, column_eq_ok skipped, universalText_eq_ok placed,
      universalText_eq_ok placed', current, message, textColumn_ofText?, text?_ofText?, bind,
      Except.bind]
  refine ⟨_, row, ?_⟩
  constructor
  · rfl
  · rfl
  · rfl
  · exact ⟨created, placed, rfl⟩
  · exact aware
  · intro now
    have reads := Timestamp.read?_text (Timestamp.onMinutes_of_toUniversal placed)
    have reads' := Timestamp.read?_text (Timestamp.onMinutes_of_toUniversal placed')
    have same := Instance.equals_of_same (Timestamp.same_toUniversal aware placed)
      (Timestamp.same_toUniversal aware' placed')
    have kept := Instance.ofRecord_fieldsAt regular now reads reads'
    refine ⟨_, ?_, same⟩
    simp only [toInstance, columnValue_render definition, columnValue_render data,
      columnValue_render failures, columnValue_render completed, columnValue_render skipped, bind,
      Except.bind]
    rw [← kept, Instance.fieldsAt, current, message]

end Row

end Workflow
