import Workflow.Number.Numeral
import Workflow.Value.Basic

/-!
# Dot paths

A path names a place in a document by parts with dots between them. A part is a key of a mapping or,
for reading only, an index of a list, where negative indices count from the end.
-/

namespace Workflow.Path

open Number

/-- The parts of a path: the texts between its dots. There is always at least one. -/
def split : List Char → List (List Char)
  | [] => [[]]
  | c :: rest =>
    if c = '.' then [] :: split rest
    else match split rest with
      | [] => [[c]]
      | part :: parts => (c :: part) :: parts

/-- The parts of a path as texts. -/
def parts (path : String) : List String :=
  (split path.toList).map String.ofList

theorem split_ne_nil (cs : List Char) : split cs ≠ [] := by
  cases cs with
  | nil => simp [split]
  | cons c rest =>
      simp only [split]
      split
      · simp
      · split <;> simp

theorem parts_ne_nil (path : String) : parts path ≠ [] := by
  simpa [parts] using split_ne_nil path.toList

/-- Whether a part has the form of an index: dashes, then digits of any kind. -/
def isIndex (part : String) : Bool :=
  let digits := part.toList.dropWhile (· = '-')
  !digits.isEmpty && digits.all Text.isDigitLike

/-- The item of a list at an index, where negative indices count from the end. -/
def itemAt? (items : List Value) (index : Int) : Option Value :=
  if 0 ≤ index then items[index.toNat]?
  else if (-index).toNat ≤ items.length then items[items.length - (-index).toNat]?
  else none

/-- What a value holds under one part of a path. A part that has the form of an index and yet cannot be
read as a number is an error. -/
def child? (value : Value) (part : String) : Except IntegerError (Option Value) :=
  match value with
  | .dict entries => .ok (Dict.field? entries part)
  | .list items | .group items =>
    if isIndex part then do
      let index ← readInteger part
      .ok (itemAt? items index)
    else .ok none
  | _ => .ok none

/-- What a value holds under the parts of a path. -/
def descend? (value : Value) : List String → Except IntegerError (Option Value)
  | [] => .ok (some value)
  | part :: rest => do
    match ← child? value part with
    | some inner => descend? inner rest
    | none => .ok none

/-- What a document holds at a path. -/
def get? (document : Value) (path : String) : Except IntegerError (Option Value) :=
  descend? document (parts path)

/-- A mapping with a value put at the parts of a path. A missing part, and a part that holds anything
but a mapping, becomes a mapping; a path that ends in a dot names what stands before the dot. -/
def put (entries : Dict) : List String → Value → Dict
  | [], _ => entries
  | [part], value => entries.setField part value
  | part :: next :: rest, value =>
    if next = "" ∧ rest = [] then entries.setField part value
    else
      let inner := match entries.field? part with
        | some (.dict inner) => inner
        | _ => []
      entries.setField part (.dict (put inner (next :: rest) value))

/-- A mapping with a value put at a path. -/
def set (entries : Dict) (path : String) (value : Value) : Dict :=
  put entries (parts path) value

end Workflow.Path
