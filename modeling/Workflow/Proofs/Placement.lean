import Workflow.Action.Context
import Workflow.Proofs.Document

/-!
# Values put at paths

What is put at a path is found there, a second value takes the place of the first, and a path that
goes apart from it leads where it led before, as long as both walk mappings or what is missing.
Only mappings are kept on the way: anything else that stands there, a list too, is replaced by a
mapping of one entry.
-/

namespace Workflow

/-! ## Entries of mappings -/

namespace Dict

theorem field?_setField (entries : Dict) (key name : String) (value : Value) :
    (entries.setField key value).field? name =
      if key = name then some value else entries.field? name :=
  field?_insert entries key name value

theorem setField_setField (entries : Dict) (name : String) (value other : Value) :
    (entries.setField name value).setField name other = entries.setField name other :=
  insert_insert entries name value other

/-- The mapping under a name. Where there is none, it counts as empty. -/
def inner (entries : Dict) (name : String) : Dict :=
  match entries.field? name with
  | some (.dict inner) => inner
  | _ => []

@[simp] theorem inner_setField (entries inner : Dict) (name : String) :
    (entries.setField name (.dict inner)).inner name = inner := by
  simp [Dict.inner, field?_setField]

theorem inner_of_field? {entries inner : Dict} {name : String}
    (found : entries.field? name = some (.dict inner)) : entries.inner name = inner := by
  simp [Dict.inner, found]

theorem inner_of_missing {entries : Dict} {name : String}
    (missing : entries.field? name = none) : entries.inner name = [] := by
  simp [Dict.inner, missing]

/-- The mapping to which names lead, one after the other. -/
def within (entries : Dict) (names : List String) : Dict :=
  names.foldl inner entries

theorem within_empty (names : List String) : within [] names = [] := by
  induction names with
  | nil => rfl
  | cons name rest ih => exact ih

end Dict

namespace Path

/-! ## Parts of a path -/

/-- The last character of a path is a dot. -/
def EndsInDot (path : String) : Prop :=
  path.toList.getLast? = some '.'

instance (path : String) : Decidable (EndsInDot path) :=
  inferInstanceAs (Decidable (_ = _))

/-- The last of several parts is not empty. -/
def AreWhole (parts : List String) : Prop :=
  parts.tail.getLast? ≠ some ""

theorem AreWhole.goes_on {part next : String} {rest : List String}
    (whole : AreWhole (part :: next :: rest)) : ¬ (next = "" ∧ rest = []) := by
  rintro ⟨rfl, rfl⟩
  exact whole rfl

theorem AreWhole.tail {part next : String} {rest : List String}
    (whole : AreWhole (part :: next :: rest)) : AreWhole (next :: rest) := by
  cases rest with
  | nil => simp [AreWhole]
  | cons other others => simpa [AreWhole] using whole

/-- Nothing stands behind the last dot if the last part is empty. -/
theorem getLast?_split {cs : List Char} (empty : (split cs).getLast? = some []) :
    cs = [] ∨ cs.getLast? = some '.' := by
  induction cs with
  | nil => exact .inl rfl
  | cons c rest ih =>
      right
      obtain ⟨part, parts, splits⟩ := List.exists_cons_of_ne_nil (split_ne_nil rest)
      rw [splits] at ih
      by_cases dot : c = '.'
      · have last : (part :: parts).getLast? = some [] := by
          simpa [split, dot, splits] using empty
        rcases ih last with rfl | ends
        · simp [dot]
        · simp [List.getLast?_cons, ends]
      · have last : ((c :: part) :: parts).getLast? = some [] := by
          simpa [split, dot, splits] using empty
        cases parts with
        | nil => simp at last
        | cons next others =>
            rw [List.getLast?_cons_cons] at last
            rcases ih (by rw [List.getLast?_cons_cons, last]) with rfl | ends
            · simp [split] at splits
            · simp [List.getLast?_cons, ends]

theorem areWhole_parts {path : String} (closed : ¬ EndsInDot path) : AreWhole (parts path) := by
  intro empty
  obtain ⟨first, rest, splits⟩ := List.exists_cons_of_ne_nil (split_ne_nil path.toList)
  have last : rest.getLast? = some [] := by
    simpa [parts, splits] using empty
  have behind : (split path.toList).getLast? = some [] := by
    simp [splits, List.getLast?_cons, last]
  rcases getLast?_split behind with none | dot
  · simp only [none, split, List.cons.injEq] at splits
    simp [← splits.2] at last
  · exact closed dot

/-! ## What is put at a path -/

section Putting

variable {entries inner : Dict} {part next : String} {rest others : List String} {value : Value}

theorem put_goes_on (goes : ¬ (next = "" ∧ rest = [])) :
    put entries (part :: next :: rest) value =
      entries.setField part (.dict (put (entries.inner part) (next :: rest) value)) := by
  rw [put, if_neg goes]
  rfl

/-- Whatever the parts, they change the entry of the first one. -/
theorem exists_put (entries : Dict) (part : String) (rest : List String) (value : Value) :
    ∃ held, put entries (part :: rest) value = entries.setField part held := by
  cases rest with
  | nil => exact ⟨value, rfl⟩
  | cons next rest =>
      by_cases goes : next = "" ∧ rest = []
      · exact ⟨value, by rw [put, if_pos goes]⟩
      · exact ⟨_, put_goes_on goes⟩

theorem descend?_of_field? {held : Value} (found : entries.field? part = some held) :
    descend? (.dict entries) (part :: rest) = descend? held rest := by
  simp [descend?, child?, found, bind, Except.bind]

theorem descend?_of_missing (missing : entries.field? part = none) :
    descend? (.dict entries) (part :: rest) = .ok none := by
  simp [descend?, child?, missing, bind, Except.bind]

/-- What is put at parts is found there. -/
theorem descend?_put (part : String) (rest : List String) (whole : AreWhole (part :: rest))
    (entries : Dict) (value : Value) :
    descend? (.dict (put entries (part :: rest) value)) (part :: rest) = .ok (some value) := by
  induction rest generalizing part entries with
  | nil => exact descend?_of_field? (by simp [put, Dict.field?_setField])
  | cons next rest ih =>
      rw [put_goes_on whole.goes_on, descend?_of_field? (by rw [Dict.field?_setField, if_pos rfl])]
      exact ih next whole.tail (entries.inner part)

/-- What is put at parts takes the place of what was put there before. -/
theorem put_put (part : String) (rest : List String) (entries : Dict) (value other : Value) :
    put (put entries (part :: rest) value) (part :: rest) other =
      put entries (part :: rest) other := by
  induction rest generalizing part entries with
  | nil => exact Dict.setField_setField entries part value other
  | cons next rest ih =>
      by_cases goes : next = "" ∧ rest = []
      · simp only [put, if_pos goes]
        exact Dict.setField_setField entries part value other
      · rw [put_goes_on goes, put_goes_on goes, put_goes_on goes, Dict.inner_setField,
          Dict.setField_setField, ih]

/-! ## Paths that go apart -/

/-- Two rows of parts differ at some place, and up to there both walk mappings or entries that are
missing. -/
inductive Forks : Dict → List String → List String → Prop where
  | apart {entries : Dict} {part other : String} {rest others : List String} :
      part ≠ other → Forks entries (part :: rest) (other :: others)
  | along {entries inner : Dict} {part : String} {rest others : List String} :
      entries.field? part = some (.dict inner) → Forks inner rest others →
      Forks entries (part :: rest) (part :: others)
  | missing {entries : Dict} {part : String} {rest others : List String} :
      entries.field? part = none → Forks [] rest others →
      Forks entries (part :: rest) (part :: others)

/-- There is a part on both sides where they differ. -/
theorem Forks.exists_cons (forks : Forks entries rest others) :
    ∃ part parts other more, rest = part :: parts ∧ others = other :: more := by
  cases forks with
  | apart | along | missing => exact ⟨_, _, _, _, rfl, rfl⟩

/-- What is put at parts changes nothing where others lead. -/
theorem descend?_put_of_forks (forks : Forks entries rest others) (whole : AreWhole rest)
    (value : Value) :
    descend? (.dict (put entries rest value)) others = descend? (.dict entries) others := by
  induction forks with
  | @apart entries part other rest others differ =>
      obtain ⟨held, puts⟩ := exists_put entries part rest value
      have same : (put entries (part :: rest) value).field? other = entries.field? other := by
        rw [puts, Dict.field?_setField, if_neg differ]
      simp only [descend?, child?, same]
  | along found forks ih =>
      obtain ⟨next, parts, _, _, rfl, _⟩ := forks.exists_cons
      rw [put_goes_on whole.goes_on, descend?_of_field? (by rw [Dict.field?_setField, if_pos rfl]),
        descend?_of_field? found, Dict.inner_of_field? found]
      exact ih whole.tail
  | missing missing forks ih =>
      obtain ⟨next, parts, _, _, rfl, rfl⟩ := forks.exists_cons
      rw [put_goes_on whole.goes_on, descend?_of_field? (by rw [Dict.field?_setField, if_pos rfl]),
        descend?_of_missing missing, Dict.inner_of_missing missing, ih whole.tail]
      exact descend?_of_missing rfl

end Putting

section Laws

variable {path : String}

theorem get?_set (closed : ¬ EndsInDot path) (entries : Dict) (value : Value) :
    get? (.dict (set entries path value)) path = .ok (some value) := by
  have whole := areWhole_parts closed
  unfold get? set
  obtain ⟨part, rest, same⟩ := List.exists_cons_of_ne_nil (parts_ne_nil path)
  rw [same] at whole ⊢
  exact descend?_put part rest whole entries value

theorem set_set (entries : Dict) (path : String) (value other : Value) :
    set (set entries path value) path other = set entries path other := by
  unfold set
  obtain ⟨part, rest, same⟩ := List.exists_cons_of_ne_nil (parts_ne_nil path)
  rw [same]
  exact put_put part rest entries value other

theorem get?_set_of_forks {entries : Dict} {other : String} (closed : ¬ EndsInDot path)
    (forks : Forks entries (parts path) (parts other)) (value : Value) :
    get? (.dict (set entries path value)) other = get? (.dict entries) other :=
  descend?_put_of_forks forks (areWhole_parts closed) value

/-- A path that does not end in a dot is a lens: what is set there is found there, the last of two
values that are set there stays, and where paths lead that go apart from it nothing changes. -/
theorem lens_laws (closed : ¬ EndsInDot path) (entries : Dict) (value other : Value) :
    get? (.dict (set entries path value)) path = .ok (some value) ∧
    set (set entries path value) path other = set entries path other ∧
    ∀ elsewhere, Forks entries (parts path) (parts elsewhere) →
      get? (.dict (set entries path value)) elsewhere = get? (.dict entries) elsewhere :=
  ⟨get?_set closed entries value, set_set entries path value other,
    fun _ forks => get?_set_of_forks closed forks value⟩

/-- What is set at a path is found there and nowhere that goes apart from it. -/
theorem lens_laws_contact :
    let entries := Dict.ofFields [("user", .ofFields [("name", .text "ann")])]
    let changed := set entries "user.contact.mail" (.text "a@home")
    ¬ EndsInDot "user.contact.mail" ∧
      Forks entries (parts "user.contact.mail") (parts "user.name") ∧
      get? (.dict changed) "user.contact.mail" = .ok (some (.text "a@home")) ∧
      set changed "user.contact.mail" (.text "a@work") =
        set entries "user.contact.mail" (.text "a@work") ∧
      get? (.dict changed) "user.name" = .ok (some (.text "ann")) := by
  intro entries changed
  have closed : ¬ EndsInDot "user.contact.mail" := by decide
  have forks : Forks entries (parts "user.contact.mail") (parts "user.name") :=
    .along rfl (.apart (by decide))
  obtain ⟨found, last, elsewhere⟩ := lens_laws closed entries (.text "a@home") (.text "a@work")
  exact ⟨closed, forks, found, last, elsewhere "user.name" forks⟩

end Laws

/-! ## What is not kept on the way -/

section Replacing

variable {entries : Dict} {part : String} {rest : List String} {value : Value}

/-- Where names lead to anything but a mapping, no mapping is found by way of mappings alone. -/
theorem within_of_descend? {names : List String} {held : Value}
    (leads : descend? (.dict entries) names = .ok (some held)) (other : held.dict? = none) :
    entries.within names = [] := by
  induction names generalizing entries with
  | nil =>
      cases leads
      cases other
  | cons name rest ih =>
      cases found : entries.field? name with
      | none =>
          rw [descend?_of_missing found] at leads
          cases leads
      | some inside =>
          rw [descend?_of_field? found] at leads
          cases inside with
          | dict inner =>
              have step : entries.within (name :: rest) = Dict.within inner rest := by
                rw [← Dict.inner_of_field? found]
                rfl
              rw [step]
              exact ih leads
          | _ =>
              have step : entries.within (name :: rest) = Dict.within [] rest := by
                simp [Dict.within, Dict.inner, found]
              rw [step]
              exact Dict.within_empty rest

/-- On the way to what is put somewhere stand mappings, each with the rest of the way put into the
mapping that stood there, or into an empty one. -/
theorem descend?_put_inside (goes : ¬ (part = "" ∧ rest = [])) (before : List String)
    (entries : Dict) (value : Value) :
    descend? (.dict (put entries (before ++ part :: rest) value)) before =
      .ok (some (.dict (put (entries.within before) (part :: rest) value))) := by
  induction before generalizing entries with
  | nil => rfl
  | cons name names ih =>
      obtain ⟨next, more, splits, onward⟩ : ∃ next more, names ++ part :: rest = next :: more ∧
          ¬ (next = "" ∧ more = []) := by
        cases names with
        | nil => exact ⟨part, rest, rfl, goes⟩
        | cons second others => exact ⟨second, others ++ part :: rest, rfl, by simp⟩
      rw [List.cons_append, splits, put_goes_on onward,
        descend?_of_field? (by rw [Dict.field?_setField, if_pos rfl]), ← splits, ih]
      rfl

theorem descend?_append {value held : Value} {names others : List String}
    (leads : descend? value names = .ok (some held)) :
    descend? value (names ++ others) = descend? held others := by
  induction names generalizing value with
  | nil =>
      cases leads
      rfl
  | cons name rest ih =>
      obtain ⟨inner?, child, later⟩ := then_eq_ok.mp leads
      cases inner? with
      | none => cases later
      | some inner =>
          simp only [List.cons_append, descend?, child, bind, Except.bind]
          exact ih later

/-- A value that is set at an item of a list, or within it, stands in a mapping of one entry that takes
the place of the list. The other items are lost. -/
theorem set_replaces_list {path : String} {before after : List String} {items : List Value}
    {item : Value} (splits : parts path = before ++ part :: after)
    (leads : descend? (.dict entries) before = .ok (some (.list items)))
    (indexed : child? (.list items) part = .ok (some item)) (value : Value) :
    descend? (.dict (set entries path value)) before =
        .ok (some (.dict (put [] (part :: after) value))) ∧
      ∀ other, other ≠ part →
        descend? (.dict (set entries path value)) (before ++ [other]) = .ok none := by
  have goes : ¬ (part = "" ∧ after = []) := by
    rintro ⟨rfl, _⟩
    cases indexed
  have replaced : descend? (.dict (set entries path value)) before =
      .ok (some (.dict (put [] (part :: after) value))) := by
    rw [set, splits, descend?_put_inside goes, within_of_descend? leads rfl]
  refine ⟨replaced, fun other differs => ?_⟩
  obtain ⟨held, puts⟩ := exists_put [] part after value
  rw [descend?_append replaced, puts]
  apply descend?_of_missing
  rw [Dict.field?_setField, if_neg differs.symm]
  rfl

/-- The second of two lines of an order is changed, and the first one is lost. -/
theorem set_replaces_list_lines :
    let line (item : String) : Value := .ofFields [("item", .text item)]
    let entries := Dict.ofFields [("order", .ofFields [("lines", .list [line "pen", line "ink"])])]
    let changed := set entries "order.lines.1.item" (.text "nib")
    descend? (.dict entries) ["order", "lines"] = .ok (some (.list [line "pen", line "ink"])) ∧
      descend? (.dict changed) ["order", "lines"] =
        .ok (some (.dict (Dict.ofFields [("1", line "nib")]))) ∧
      descend? (.dict changed) ["order", "lines", "0"] = .ok none := by
  intro line entries changed
  have leads : descend? (.dict entries) ["order", "lines"] =
      .ok (some (.list [line "pen", line "ink"])) := rfl
  have splits : parts "order.lines.1.item" = ["order", "lines"] ++ "1" :: ["item"] := rfl
  obtain ⟨replaced, lost⟩ := set_replaces_list splits leads rfl (.text "nib")
  exact ⟨leads, replaced, lost "0" (by decide)⟩

/-- The list does not keep its length, nor the items at other positions. -/
theorem not_keeps_list :
    let entries := Dict.ofFields [("items", .list [.text "pen", .text "ink"])]
    let changed := set entries "items.0" (.text "nib")
    get? (.dict entries) "items" = .ok (some (.list [.text "pen", .text "ink"])) ∧
      get? (.dict changed) "items" = .ok (some (.dict [(.text "0", .text "nib")])) ∧
      get? (.dict entries) "items.1" = .ok (some (.text "ink")) ∧
      get? (.dict changed) "items.1" = .ok none := by
  intro entries changed
  refine ⟨rfl, rfl, ?_, ?_⟩
  · show descend? (.dict entries) ["items", "1"] = _
    rfl
  · show descend? (.dict changed) ["items", "1"] = _
    rfl

end Replacing

end Path

/-! ## Contexts -/

namespace Context

variable {path : String}

theorem get?_withValue (closed : ¬ Path.EndsInDot path) (context : Context) (value : Value) :
    (context.withValue path value).get? path = .ok (some value) :=
  Path.get?_set closed context.data value

theorem get?_withValue_of_forks {context : Context} {other : String}
    (closed : ¬ Path.EndsInDot path)
    (forks : Path.Forks context.data (Path.parts path) (Path.parts other)) (value : Value) :
    (context.withValue path value).get? other = context.get? other :=
  Path.get?_set_of_forks closed forks value

end Context

end Workflow
