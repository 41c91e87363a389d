import Mathlib.Data.List.Nodup
import Workflow.Definition.Parser
import Workflow.Number.Shortest
import Workflow.Proofs.Reading
import Workflow.Value.Form

/-!
# JSON documents as values

The values that a JSON text can hold: texts, truth values, numbers other than not-a-number, lists,
and mappings from texts.  No such value refers beyond itself, and such a mapping is taken as it
stands where keys have to be texts.
-/

namespace Workflow

open Number

/-! ## Mappings from texts -/

theorem Scalar.same_text {key : Scalar} {name : String} :
    key.same (.text name) = true ↔ key = .text name := by
  cases key with
  | text other =>
      simp only [Scalar.same, Scalar.equals, Bool.or_eq_true, beq_iff_eq]
      constructor
      · intro same
        cases same with
        | inl texts => rw [texts]
        | inr keys => exact keys
      · exact .inr
  | _ => simp [Scalar.same, Scalar.equals, Scalar.position?]

theorem Value.equals_text {value : Value} {content : String} :
    value.equals (.text content) = true ↔ value = .text content := by
  cases value with
  | scalar held =>
      cases held <;> simp [Value.equals, Scalar.equals, Scalar.position?]
  | _ => simp [Value.equals, Value.same]

namespace Dict

/-- All keys of a mapping are texts, and no two of them are equal. -/
def KeyedByText (entries : Dict) : Prop :=
  (∀ entry ∈ entries, ∃ name, entry.1 = .text name) ∧ (entries.map (·.1)).Nodup

theorem keyedByText_nil : KeyedByText [] := by
  simp [KeyedByText]

@[simp] theorem field?_nil (name : String) : field? [] name = none := rfl

theorem field?_cons (key name : String) (value : Value) (rest : Dict) :
    field? ((.text key, value) :: rest) name =
      if key = name then some value else rest.field? name := by
  by_cases same : key = name
  · subst same
    have found : (Scalar.text key).same (.text key) = true := Scalar.same_text.mpr rfl
    simp [field?, find?, found]
  · have other : (Scalar.text key).same (.text name) = false := by
      rw [← Bool.not_eq_true, Scalar.same_text]
      simpa using same
    simp [field?, find?, other, same]

/-- The value of a name among named values. -/
theorem field?_ofFields (fields : List (String × Value)) (name : String) :
    (ofFields fields).field? name = fields.lookup name := by
  induction fields with
  | nil => rfl
  | cons field rest ih =>
      obtain ⟨key, value⟩ := field
      have cons : ofFields ((key, value) :: rest) = (.text key, value) :: ofFields rest := rfl
      rw [cons, field?_cons, ih, List.lookup_cons]
      by_cases same : key = name
      · simp [same]
      · have other : (name == key) = false := by simpa using Ne.symm same
        simp [same, other]

/-- Another entry than that of a key is not found under it. -/
theorem field?_erase {name other : String} (differ : name ≠ other) (entries : Dict) :
    (entries.erase (.text other)).field? name = entries.field? name := by
  simp only [erase, field?, find?, List.find?_filter]
  congr 2
  funext entry
  by_cases found : entry.1 = .text name
  · have kept : entry.1.same (.text other) = false := by
      rw [← Bool.not_eq_true, Scalar.same_text, found]
      simpa using differ
    simp [kept]
  · have missed : entry.1.same (.text name) = false := by
      rw [← Bool.not_eq_true, Scalar.same_text]
      exact found
    simp [missed]

/-- What is found after a value was put under a name. -/
theorem field?_insert (entries : Dict) (key name : String) (value : Value) :
    (entries.insert (.text key) value).field? name =
      if key = name then some value else entries.field? name := by
  induction entries with
  | nil => exact field?_cons key name value []
  | cons entry rest ih =>
      rcases entry with ⟨other, old⟩
      simp only [insert]
      split
      · next same =>
          rw [Scalar.same_text.mp same, field?_cons, field?_cons]
          split <;> rfl
      · next different =>
          by_cases found : other.same (.text name) = true
          · have apart : ¬ key = name := by
              rintro rfl
              exact different found
            simp [field?, find?, found, apart]
          · have step : ∀ more : Dict, field? ((other, old) :: more) name = field? more name := by
              intro more
              simp [field?, find?, found]
            rw [step, step, ih]

/-- What is put under a name takes the place of what was put there before. -/
theorem insert_insert (entries : Dict) (name : String) (value other : Value) :
    (entries.insert (.text name) value).insert (.text name) other =
      entries.insert (.text name) other := by
  induction entries with
  | nil =>
      have same : (Scalar.text name).same (.text name) = true := Scalar.same_text.mpr rfl
      simp [insert, same]
  | cons entry rest ih =>
      obtain ⟨key, old⟩ := entry
      by_cases same : key.same (.text name) = true
      · simp [insert, same]
      · simp [insert, same, ih]

theorem insert_new {entries : Dict} {name : String} {value : Value}
    (new : ∀ entry ∈ entries, entry.1 ≠ .text name) :
    entries.insert (.text name) value = entries ++ [(.text name, value)] := by
  induction entries with
  | nil => rfl
  | cons entry rest ih =>
      obtain ⟨key, old⟩ := entry
      have other : key.same (.text name) = false := by
        rw [← Bool.not_eq_true, Scalar.same_text]
        exact new (key, old) (by simp)
      have later := ih fun entry member => new entry (by simp [member])
      simp [insert, other, later]

theorem overlay_new {entries later : Dict} (keyed : KeyedByText (entries ++ later)) :
    entries.overlay later = entries ++ later := by
  induction later generalizing entries with
  | nil => simp [overlay]
  | cons entry rest ih =>
      obtain ⟨key, value⟩ := entry
      obtain ⟨name, same⟩ := keyed.1 (key, value) (by simp)
      cases same
      have new : ∀ entry ∈ entries, entry.1 ≠ .text name := by
        intro entry member same
        have distinct := keyed.2
        rw [List.map_append, List.nodup_append] at distinct
        exact distinct.2.2 entry.1 (List.mem_map_of_mem member) (.text name) (by simp) same
      have step : entries.overlay ((.text name, value) :: rest) =
          (entries.insert (.text name) value).overlay rest := rfl
      rw [step, insert_new new, ih]
      · simp
      · simpa using keyed

/-- A mapping from texts is what its entries make. -/
theorem ofEntries_eq_self {entries : Dict} (keyed : KeyedByText entries) :
    ofEntries entries = entries := by
  exact @overlay_new [] entries keyed

theorem ofValue_dict {entries : Dict} (keyed : KeyedByText entries) :
    ofValue (.dict entries) = .ok entries := by
  cases entries with
  | nil => rfl
  | cons =>
      simp [ofValue, Value.truthy, Value.entries, Value.offered, ofEntries_eq_self keyed]

theorem keyedByText_ofFields {fields : List (String × Value)}
    (distinct : (fields.map (·.1)).Nodup) : (ofFields fields).KeyedByText := by
  constructor
  · intro entry member
    obtain ⟨field, _, rfl⟩ := List.mem_map.mp member
    exact ⟨field.1, rfl⟩
  · have texts : (ofFields fields).map (·.1) = (fields.map (·.1)).map .text := by
      simp [ofFields]
    rw [texts]
    exact List.Nodup.map (fun _ _ same => by cases same; rfl) distinct

theorem KeyedByText.tail {entry : Scalar × Value} {rest : Dict}
    (keyed : KeyedByText (entry :: rest)) : KeyedByText rest := by
  constructor
  · intro other member
    exact keyed.1 other (by simp [member])
  · exact (List.nodup_cons.mp keyed.2).2

end Dict

namespace Reader

theorem fields_any {entries : Dict} (keyed : entries.KeyedByText) :
    ∃ names, fields any (.dict entries) = .valid names ∧ Dict.ofFields names = entries := by
  induction entries with
  | nil => exact ⟨[], rfl, rfl⟩
  | cons entry rest ih =>
      obtain ⟨key, value⟩ := entry
      obtain ⟨name, same⟩ := keyed.1 (key, value) (by simp)
      cases same
      obtain ⟨names, reads, whole⟩ := ih keyed.tail
      refine ⟨(name, value) :: names, ?_, ?_⟩
      · have step : fields any (.dict ((.text name, value) :: rest)) =
            (fun others => (name, value) :: others) <$> fields any (.dict rest) := by
          simp only [fields]
          rfl
        rw [step, reads]
        rfl
      · simp only [Dict.ofFields, List.map_cons] at whole ⊢
        rw [whole]

/-- A mapping from texts is read as it stands. -/
theorem dict_eq_valid {entries : Dict} (keyed : entries.KeyedByText) :
    dict (.dict entries) = .valid entries := by
  obtain ⟨names, reads, whole⟩ := fields_any keyed
  simp only [dict, reads]
  have made : Dict.ofEntries (Dict.ofFields names) = entries := by
    rw [whole]
    exact Dict.ofEntries_eq_self keyed
  rw [← made]
  rfl

end Reader

theorem Definition.textKeyed_eq_ok {field : String} {entries : Dict}
    (keyed : entries.KeyedByText) : textKeyed field entries = .ok entries := by
  simp only [textKeyed, Reader.dict_eq_valid keyed]
  rfl

/-! ## Values of JSON texts -/

/-- The most digits that are read bound a whole number. -/
def isReadableInteger (value : Int) : Bool :=
  (digitText value.natAbs).length ≤ digitLimit

namespace Scalar

/-- Whether a scalar is one that a JSON text can hold. -/
def isJson : Scalar → Bool
  | .null | .bool _ | .text _ => true
  | .int value => isReadableInteger value
  | .float (.nan _) => false
  | .float _ => true
  | .date _ | .timestamp _ | .bytes _ => false

end Scalar

namespace Value

mutual

/-- Whether a value is one that a JSON text can hold. -/
def isJson : Value → Bool
  | .scalar value => value.isJson
  | .list items => areJson items
  | .dict entries => holdJson entries
  | .group _ | .set _ | .loop _ _ => false

/-- Whether all values of a list are ones that a JSON text can hold. -/
def areJson : List Value → Bool
  | [] => true
  | item :: rest => isJson item && areJson rest

/-- Whether entries are those of a mapping that a JSON text can hold. -/
def holdJson : List (Scalar × Value) → Bool
  | [] => true
  | (.text name, value) :: rest =>
    rest.all (·.1 != .text name) && isJson value && holdJson rest
  | _ :: _ => false

end

theorem areJson_iff {items : List Value} :
    areJson items = true ↔ ∀ item ∈ items, item.isJson = true := by
  induction items with
  | nil => simp [areJson]
  | cons item rest ih => simp [areJson, ih]

theorem holdJson_cons {key : Scalar} {value : Value} {rest : List (Scalar × Value)}
    (json : holdJson ((key, value) :: rest) = true) :
    (∃ name, key = .text name) ∧ (∀ entry ∈ rest, entry.1 ≠ key) ∧ value.isJson = true ∧
      holdJson rest = true := by
  cases key with
  | text name =>
      simp only [holdJson, Bool.and_eq_true, List.all_eq_true, bne_iff_ne] at json
      exact ⟨⟨name, rfl⟩, json.1.1, json.1.2, json.2⟩
  | _ => simp [holdJson] at json

theorem holdJson_ofFields {fields : List (String × Value)} (distinct : (fields.map (·.1)).Nodup)
    (json : ∀ field ∈ fields, field.2.isJson = true) : holdJson (Dict.ofFields fields) = true := by
  induction fields with
  | nil => rfl
  | cons field rest ih =>
      obtain ⟨name, value⟩ := field
      obtain ⟨first, others⟩ := List.forall_mem_cons.mp json
      rw [List.map_cons, List.nodup_cons] at distinct
      have cons : Dict.ofFields ((name, value) :: rest) =
          (.text name, value) :: Dict.ofFields rest := rfl
      have new : (Dict.ofFields rest).all (·.1 != .text name) = true := by
        simp only [Dict.ofFields, List.all_map, List.all_eq_true, Function.comp_apply, bne_iff_ne]
        intro other member same
        cases same
        exact distinct.1 (List.mem_map.mpr ⟨other, member, rfl⟩)
      rw [cons, holdJson, new, first, ih distinct.2 others]
      rfl

theorem areJson_ofTexts (texts : List String) : (Value.ofTexts texts).isJson = true := by
  simp only [Value.ofTexts, isJson, areJson_iff]
  intro item member
  obtain ⟨text, _, rfl⟩ := List.mem_map.mp member
  rfl

theorem keyedByText_of_holdJson {entries : Dict} (json : holdJson entries = true) :
    entries.KeyedByText := by
  induction entries with
  | nil => exact Dict.keyedByText_nil
  | cons entry rest ih =>
      obtain ⟨key, value⟩ := entry
      obtain ⟨text, new, _, json⟩ := holdJson_cons json
      obtain ⟨texts, distinct⟩ := ih json
      constructor
      · simpa [text] using texts
      · rw [List.map_cons, List.nodup_cons]
        refine ⟨?_, distinct⟩
        intro member
        obtain ⟨other, inside, same⟩ := List.mem_map.mp member
        exact new other inside same

theorem isJson_of_field? {entries : Dict} (json : holdJson entries = true) {name : String}
    {value : Value} (found : entries.field? name = some value) : value.isJson = true := by
  induction entries with
  | nil => cases found
  | cons entry rest ih =>
      obtain ⟨key, held⟩ := entry
      obtain ⟨⟨text, rfl⟩, _, first, json⟩ := holdJson_cons json
      rw [Dict.field?_cons] at found
      split at found
      · cases found
        exact first
      · exact ih json found

mutual

/-- Nothing is put into a value that does not refer beyond itself. -/
theorem tied_of_isJson (whole : Value) (levels : Nat) (value : Value)
    (json : value.isJson = true) : tied whole levels value = value := by
  cases value with
  | scalar => rfl
  | list items => rw [tied, tiedItems_of_areJson whole (levels + 1) items json]
  | dict entries => rw [tied, tiedEntries_of_holdJson whole (levels + 1) entries json]
  | group | set | loop => cases json

theorem tiedItems_of_areJson (whole : Value) (levels : Nat) (items : List Value)
    (json : areJson items = true) : tiedItems whole levels items = items := by
  cases items with
  | nil => rfl
  | cons item rest =>
      simp only [areJson, Bool.and_eq_true] at json
      rw [tiedItems, tied_of_isJson whole levels item json.1,
        tiedItems_of_areJson whole levels rest json.2]

theorem tiedEntries_of_holdJson (whole : Value) (levels : Nat) (entries : List (Scalar × Value))
    (json : holdJson entries = true) : tiedEntries whole levels entries = entries := by
  match entries with
  | [] => rfl
  | (key, value) :: rest =>
      obtain ⟨_, _, first, others⟩ := holdJson_cons json
      rw [tiedEntries, tied_of_isJson whole levels value first,
        tiedEntries_of_holdJson whole levels rest others]

end

theorem opened_of_isJson {value : Value} (json : value.isJson = true) : value.opened = value :=
  tied_of_isJson value 0 value json

/-! ## Values made of scalars, lists and mappings -/

/-- A value is made of scalars, lists and mappings from texts, whatever the scalars are. -/
inductive IsDocument : Value → Prop where
  | scalar (value : Scalar) : IsDocument (.scalar value)
  | list {items : List Value} : (∀ item ∈ items, IsDocument item) → IsDocument (.list items)
  | dict {entries : Dict} : entries.KeyedByText → (∀ entry ∈ entries, IsDocument entry.2) →
      IsDocument (.dict entries)

mutual

theorem isDocument_of_isJson (value : Value) (json : value.isJson = true) : value.IsDocument := by
  cases value with
  | scalar held => exact .scalar held
  | list items => exact .list (isDocument_of_areJson items json)
  | dict entries =>
      exact .dict (keyedByText_of_holdJson json) (isDocument_of_holdJson entries json)
  | group | set | loop => cases json

theorem isDocument_of_areJson (items : List Value) (json : areJson items = true) :
    ∀ item ∈ items, item.IsDocument := by
  cases items with
  | nil => exact List.forall_mem_nil _
  | cons item rest =>
      simp only [areJson, Bool.and_eq_true] at json
      exact List.forall_mem_cons.mpr
        ⟨isDocument_of_isJson item json.1, isDocument_of_areJson rest json.2⟩

theorem isDocument_of_holdJson (entries : List (Scalar × Value)) (json : holdJson entries = true) :
    ∀ entry ∈ entries, entry.2.IsDocument := by
  match entries with
  | [] => exact List.forall_mem_nil _
  | (key, value) :: rest =>
      obtain ⟨_, _, first, others⟩ := holdJson_cons json
      exact List.forall_mem_cons.mpr
        ⟨isDocument_of_isJson value first, isDocument_of_holdJson rest others⟩

end

end Value

/-- Under a name a mapping from texts holds the value of the entry with that key, and no other. -/
theorem Dict.field?_eq_some_iff {entries : Dict} (keyed : entries.KeyedByText) {name : String}
    {value : Value} : entries.field? name = some value ↔ (.text name, value) ∈ entries := by
  induction entries with
  | nil => simp
  | cons entry rest ih =>
      obtain ⟨key, held⟩ := entry
      obtain ⟨other, same⟩ := keyed.1 (key, held) List.mem_cons_self
      obtain ⟨fresh, _⟩ := List.nodup_cons.mp keyed.2
      cases same
      rw [field?_cons, List.mem_cons]
      by_cases here : other = name
      · subst here
        have absent : (Scalar.text other, value) ∉ rest := fun member =>
          fresh (List.mem_map.mpr ⟨_, member, rfl⟩)
        simp [absent, eq_comm]
      · simp [here, Ne.symm here, ih keyed.tail]

end Workflow
