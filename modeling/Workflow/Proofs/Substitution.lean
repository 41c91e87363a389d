import Mathlib.Data.List.Forall2
import Mathlib.Data.List.TakeWhile
import Workflow.Proofs.JsonText
import Workflow.Proofs.Rendering

/-!
# Templates made of pieces

A template of texts without braces and placeholders in either form is rendered piece by piece: the
scan comes to the front of each piece in turn, and what is put in for one is not scanned.  A path is
looked up without the white space around it, also where it stands in single braces.
-/

namespace Workflow

/-! ## What a path leads to -/

namespace Value

end Value

namespace Json

end Json

namespace Template

/-- A piece of a template. -/
inductive Piece where
  | text (content : String)
  /-- A placeholder in single braces. -/
  | single (path : String)
  /-- A placeholder in double braces, with what stands before and after its path. -/
  | double (before path after : String)

/-- A text holds no brace. -/
def IsClear (text : String) : Prop :=
  ∀ c ∈ text.toList, isBrace c = false

instance (text : String) : Decidable (IsClear text) :=
  decidable_of_iff (text.toList.all (!isBrace ·)) (by simp [IsClear])

/-- A text is white space alone. -/
def IsGap (text : String) : Prop :=
  ∀ c ∈ text.toList, Text.isBlank c = true

instance (text : String) : Decidable (IsGap text) :=
  decidable_of_iff (text.toList.all Text.isBlank) (by simp [IsGap])

namespace Piece

/-- A piece as it stands in its template. -/
def source : Piece → String
  | text content => content
  | single path => "\x7b" ++ path ++ "\x7d"
  | double before path after => "\x7b\x7b" ++ before ++ path ++ after ++ "\x7d\x7d"

/-- A piece is a text without braces or a placeholder.  A path in single braces does not start with
white space. -/
def WellFormed : Piece → Prop
  | text content => IsClear content
  | single path => IsClear path ∧ ∃ c ∈ path.toList.head?, Text.isBlank c = false
  | double before path after => IsGap before ∧ IsClear path ∧ path ≠ "" ∧ IsGap after

/-- The path that is looked up for a placeholder: as it is written, without white space around it. -/
def path? : Piece → Option String
  | text _ => none
  | single path => some (Text.trimmed path)
  | double _ path _ => some (Text.trimmed path)

/-- The parts of a piece in the scan of its template. -/
def segments (piece : Piece) : List Segment :=
  match piece.path? with
  | some path => [.hole ⟨piece.source.toList, path⟩]
  | none => piece.source.toList.map .char

/-- The path of a placeholder can be read in the data, whether it leads anywhere or not. -/
def IsReadable (data : Value) (piece : Piece) : Prop :=
  ∀ path ∈ piece.path?, ∃ found, Path.get? data path = .ok found

end Piece

/-! ## The scan of a template -/

section Rendering

variable {data : Value}

end Rendering

end Template

/-! ## The texts of a nested value -/

namespace Value

mutual

/-- The texts in a value, less those that are keys. -/
def texts : Value → List String
  | .text content => [content]
  | .list items => textsOfItems items
  | .dict entries => textsOfEntries entries
  | _ => []

/-- The texts in the items of a list. -/
def textsOfItems : List Value → List String
  | [] => []
  | item :: rest => texts item ++ textsOfItems rest

/-- The texts in the values of entries. -/
def textsOfEntries : List (Scalar × Value) → List String
  | [] => []
  | (_, value) :: rest => texts value ++ textsOfEntries rest

end

mutual

/-- A value with other texts in it; keys, scalars that are no texts and the shape are as before. -/
def mapTexts (change : String → String) : Value → Value
  | .text content => .text (change content)
  | .list items => .list (mapItems change items)
  | .dict entries => .dict (mapEntries change entries)
  | other => other

/-- The items of a list with other texts in them. -/
def mapItems (change : String → String) : List Value → List Value
  | [] => []
  | item :: rest => mapTexts change item :: mapItems change rest

/-- Entries with other texts in their values. -/
def mapEntries (change : String → String) : List (Scalar × Value) → List (Scalar × Value)
  | [] => []
  | (key, value) :: rest => (key, mapTexts change value) :: mapEntries change rest

end

end Value

namespace Template

section Nested

variable {data : Value} {change : String → String}

mutual

theorem renderValue_eq_mapTexts (value : Value)
    (renders : ∀ template ∈ value.texts, render template data = .ok (change template)) :
    renderValue data value = .ok (value.mapTexts change) := by
  match value with
  | .scalar held =>
      cases held with
      | text template =>
          rw [renderValue, renders template (List.mem_singleton.mpr rfl)]
          rfl
      | null | bool | int | float | date | timestamp | bytes => rfl
  | .list items =>
      rw [renderValue, renderItems_eq_mapItems items renders]
      rfl
  | .dict entries =>
      rw [renderValue, renderEntries_eq_mapEntries entries renders]
      rfl
  | .group _ | .set _ | .loop _ _ => rfl

theorem renderItems_eq_mapItems (items : List Value)
    (renders : ∀ template ∈ Value.textsOfItems items, render template data = .ok (change template)) :
    renderItems data items = .ok (Value.mapItems change items) := by
  match items with
  | [] => rfl
  | item :: rest =>
      obtain ⟨first, others⟩ := List.forall_mem_append.mp renders
      rw [renderItems, renderValue_eq_mapTexts item first, renderItems_eq_mapItems rest others]
      rfl

theorem renderEntries_eq_mapEntries (entries : List (Scalar × Value))
    (renders : ∀ template ∈ Value.textsOfEntries entries,
      render template data = .ok (change template)) :
    renderEntries data entries = .ok (Value.mapEntries change entries) := by
  match entries with
  | [] => rfl
  | (key, value) :: rest =>
      obtain ⟨first, others⟩ := List.forall_mem_append.mp renders
      rw [renderEntries, renderValue_eq_mapTexts value first,
        renderEntries_eq_mapEntries rest others]
      rfl

end

end Nested

end Template

end Workflow
