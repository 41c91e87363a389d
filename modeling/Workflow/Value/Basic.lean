import Workflow.Number.Binary64
import Workflow.Time.Epoch

/-!
# Document values

The data of a workflow, the parameters of its steps and the documents they are read from are nested
values: scalars, lists and mappings, and in some documents sets and groups of fixed length. A mapping
keeps its entries in the order in which their keys were first written. Keys are scalars; two keys are
the same when they are equal as values, so that `1`, `1.0` and `true` name one entry.

A document may hold a list or a mapping inside itself. Such a place is a `loop`, which tells how many
levels up the value lies that stands there; `opened` puts that value in.
-/

namespace Workflow

open Number Time

/-- A value without parts. -/
inductive Scalar where
  | null
  | bool (value : Bool)
  | int (value : Int)
  | float (value : Binary64)
  | text (value : String)
  | date (value : Date)
  | timestamp (value : Timestamp)
  | bytes (content : List UInt8)
  deriving DecidableEq

/-- A nested value. -/
inductive Value where
  | scalar (value : Scalar)
  | list (items : List Value)
  /-- A list of fixed length. -/
  | group (items : List Value)
  | set (members : List Scalar)
  | dict (entries : List (Scalar × Value))
  /-- A list or mapping that this stands in, so many levels up. -/
  | loop (levels : Nat) (isList : Bool)

/-- The entries of a mapping, in order. -/
abbrev Dict := List (Scalar × Value)

namespace Value

@[match_pattern] abbrev null : Value := .scalar .null

@[match_pattern] abbrev bool (value : Bool) : Value := .scalar (.bool value)

@[match_pattern] abbrev int (value : Int) : Value := .scalar (.int value)

@[match_pattern] abbrev float (value : Binary64) : Value := .scalar (.float value)

@[match_pattern] abbrev text (value : String) : Value := .scalar (.text value)

@[match_pattern] abbrev date (value : Date) : Value := .scalar (.date value)

@[match_pattern] abbrev timestamp (value : Timestamp) : Value := .scalar (.timestamp value)

@[match_pattern] abbrev bytes (content : List UInt8) : Value := .scalar (.bytes content)

instance : Inhabited Value := ⟨.null⟩

mutual

/-- Whether two values are the same, part by part and in the same order. -/
def identical : Value → Value → Bool
  | .scalar left, .scalar right => left == right
  | .list left, .list right => identicalLists left right
  | .group left, .group right => identicalLists left right
  | .set left, .set right => left == right
  | .dict left, .dict right => identicalEntries left right
  | .loop left isList, .loop right isList' => left == right && isList == isList'
  | _, _ => false

/-- Whether two lists hold the same values. -/
def identicalLists : List Value → List Value → Bool
  | [], [] => true
  | left :: lefts, right :: rights => identical left right && identicalLists lefts rights
  | _, _ => false

/-- Whether two mappings hold the same entries in the same order. -/
def identicalEntries : List (Scalar × Value) → List (Scalar × Value) → Bool
  | [], [] => true
  | (key, left) :: lefts, (key', right) :: rights =>
    key == key' && identical left right && identicalEntries lefts rights
  | _, _ => false

end

mutual

theorem identical_iff (left right : Value) : identical left right = true ↔ left = right := by
  cases left <;> cases right <;> simp [identical]
  · exact identicalLists_iff _ _
  · exact identicalLists_iff _ _
  · exact identicalEntries_iff _ _

theorem identicalLists_iff (left right : List Value) :
    identicalLists left right = true ↔ left = right := by
  cases left <;> cases right <;> simp [identicalLists]
  rw [identical_iff, identicalLists_iff]

theorem identicalEntries_iff (left right : List (Scalar × Value)) :
    identicalEntries left right = true ↔ left = right := by
  match left, right with
  | [], [] => simp [identicalEntries]
  | [], _ :: _ => simp [identicalEntries]
  | _ :: _, [] => simp [identicalEntries]
  | (key, value) :: rest, (key', value') :: rest' =>
    have heads := identical_iff value value'
    have tails := identicalEntries_iff rest rest'
    simp [identicalEntries, and_assoc, heads, tails]

end

instance : DecidableEq Value := fun left right =>
  decidable_of_iff _ (identical_iff left right)

end Value

namespace Scalar

/-- The place of a number on the line; a truth value counts as nought or one. -/
def position? : Scalar → Option Position
  | .bool value => some (positionOfInt (if value then 1 else 0))
  | .int value => some (positionOfInt value)
  | .float value => value.position?
  | _ => none

/-- Whether two scalars are equal: numbers by their place on the line, texts and dates each among
themselves. Not-a-number equals nothing. -/
def equals : Scalar → Scalar → Bool
  | .null, .null => true
  | .text left, .text right => left == right
  | .date left, .date right => left == right
  | .timestamp left, .timestamp right => left.same right
  | .bytes left, .bytes right => left == right
  | left, right =>
    match left.position?, right.position? with
    | some here, some there => here == there
    | _, _ => false

/-- Whether two scalars count as the same inside lists and mappings: they are equal, or one
not-a-number stands in both places. -/
def same (left right : Scalar) : Bool :=
  left.equals right || left == right

end Scalar

namespace Dict

/-- The value under a key. -/
def find? (entries : Dict) (key : Scalar) : Option Value :=
  (List.find? (fun entry => entry.1.same key) entries).map (·.2)

/-- The value under a name. -/
def field? (entries : Dict) (name : String) : Option Value :=
  find? entries (.text name)

/-- Whether a name is among the keys. -/
def hasField (entries : Dict) (name : String) : Bool :=
  (entries.field? name).isSome

/-- Puts a value under a key: in the place of the entry that has the key, or at the end. -/
def insert : Dict → Scalar → Value → Dict
  | [], key, value => [(key, value)]
  | (other, old) :: rest, key, value =>
    if other.same key then (other, value) :: rest else (other, old) :: insert rest key value

/-- Puts a value under a name. -/
def setField (entries : Dict) (name : String) (value : Value) : Dict :=
  entries.insert (.text name) value

/-- The mapping without the entry of a key. -/
def erase (entries : Dict) (key : Scalar) : Dict :=
  List.filter (fun entry => !entry.1.same key) entries

/-- The mapping with all entries of another put in, in their order. -/
def overlay (entries later : Dict) : Dict :=
  later.foldl (fun merged (key, value) => merged.insert key value) entries

/-- A mapping from entries of which later ones replace earlier ones with the same key. -/
def ofEntries (entries : List (Scalar × Value)) : Dict :=
  overlay [] entries

/-- A mapping from named values. -/
def ofFields (fields : List (String × Value)) : Dict :=
  fields.map fun (name, value) => (.text name, value)

end Dict

namespace Value

/-- A mapping from named values. -/
def ofFields (fields : List (String × Value)) : Value :=
  .dict (Dict.ofFields fields)

/-- A list of texts. -/
def ofTexts (texts : List String) : Value :=
  .list (texts.map .text)

/-- A text, or nothing. -/
def ofText? (text? : Option String) : Value :=
  (text?.map .text).getD .null

mutual

/-- Whether two values count as the same inside lists and mappings: scalars by `Scalar.same`, lists item
by item, sets by their members, and mappings when they have the same keys with the same values, in any
order. -/
def same : Value → Value → Bool
  | .scalar left, .scalar right => left.same right
  | .list left, .list right => sameLists left right
  | .group left, .group right => sameLists left right
  | .set left, .set right => left.length == right.length && left.all fun one => right.any one.same
  | .loop left isList, .loop right isList' => left == right && isList == isList'
  | .dict left, .dict right => left.length == right.length && coveredBy left right
  | _, _ => false

/-- Whether two lists are the same item by item. -/
def sameLists : List Value → List Value → Bool
  | [], [] => true
  | left :: lefts, right :: rights => same left right && sameLists lefts rights
  | _, _ => false

/-- Whether each entry is in another mapping too. -/
def coveredBy : List (Scalar × Value) → Dict → Bool
  | [], _ => true
  | (key, value) :: rest, others =>
    (match Dict.find? others key with
      | some other => same value other
      | none => false) && coveredBy rest others

end

/-- Whether two values are equal: scalars by `Scalar.equals`, all others when they are the same. -/
def equals (left right : Value) : Bool :=
  match left, right with
  | .scalar left, .scalar right => left.equals right
  | left, right => left.same right

/-- Whether a value counts as true: it is not null, false, nought or empty. -/
def truthy : Value → Bool
  | .null => false
  | .bool value => value
  | .int value => value != 0
  | .float value => !value.isZero
  | .text value => value != ""
  | .bytes content => !content.isEmpty
  | .list items => !items.isEmpty
  | .group items => !items.isEmpty
  | .set members => !members.isEmpty
  | .dict entries => !entries.isEmpty
  | _ => true

/-- The name of the kind of a value, as messages give it. -/
def kindName : Value → String
  | .null => "NoneType"
  | .bool _ => "bool"
  | .int _ => "int"
  | .float _ => "float"
  | .text _ => "str"
  | .date _ => "date"
  | .timestamp _ => "datetime"
  | .bytes _ => "bytes"
  | .list _ => "list"
  | .group _ => "tuple"
  | .set _ => "set"
  | .dict _ => "dict"
  | .loop _ isList => if isList then "list" else "dict"

/-- Whether a value is null. -/
def isNull : Value → Bool
  | .null => true
  | _ => false

/-- The text of a value that is a text. -/
def text? : Value → Option String
  | .text value => some value
  | _ => none

/-- The entries of a value that is a mapping. -/
def dict? : Value → Option Dict
  | .dict entries => some entries
  | _ => none

/-- The items of a value that is a list. -/
def list? : Value → Option (List Value)
  | .list items => some items
  | _ => none

mutual

/-- A value with another put in where it refers to what stands so many levels up. -/
def tied (whole : Value) (levels : Nat) : Value → Value
  | .list items => .list (tiedItems whole (levels + 1) items)
  | .group items => .group (tiedItems whole (levels + 1) items)
  | .dict entries => .dict (tiedEntries whole (levels + 1) entries)
  | .loop up isList => if up = levels then whole else .loop up isList
  | other => other

/-- Values with another put in where they refer to what stands so many levels up. -/
def tiedItems (whole : Value) (levels : Nat) : List Value → List Value
  | [] => []
  | item :: rest => tied whole levels item :: tiedItems whole levels rest

/-- Entries with a value put in where theirs refer to what stands so many levels up. -/
def tiedEntries (whole : Value) (levels : Nat) : List (Scalar × Value) → List (Scalar × Value)
  | [] => []
  | (key, value) :: rest => (key, tied whole levels value) :: tiedEntries whole levels rest

end

/-- The value with itself put in where it holds itself, so that no part refers beyond itself. -/
def opened (value : Value) : Value :=
  tied value 0 value

end Value

end Workflow
