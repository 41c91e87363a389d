import Workflow.Http.Basic
import Workflow.Http.Percent
import Workflow.Json.Reader
import Workflow.Json.Writer

/-!
# Values in requests

How document values become the query, the headers and the body of a request.
-/

namespace Workflow.Http

/-- A value as a part of a query: truth values as words, and nothing as an empty text. -/
def parameterText : Value → String
  | .bool true => "true"
  | .bool false => "false"
  | .null => ""
  | other => other.plain

/-- The part of a value at a place. -/
def partAt (value : Value) (index : Nat) : Except Fault Value :=
  let outside (kind : String) : Except Fault Value :=
    .error (.stated "IndexError" (kind ++ "index out of range"))
  match value with
  | .text text => text.toList[index]?.elim (outside "string ") fun c => .ok (.text (String.singleton c))
  | .list items => items[index]?.elim (outside "list ") .ok
  | .group items => items[index]?.elim (outside "tuple ") .ok
  | .bytes content => content[index]?.elim (outside "") fun byte => .ok (.int byte.toNat)
  | .dict entries =>
    (Dict.find? entries (.int index)).elim (.error (.raised "KeyError" [.int index])) .ok
  | other => .error (.stated "TypeError" s!"{Text.quoted other.kindName} object is not subscriptable")

/-- Whether a value can be a name among others. -/
def isName : Value → Bool
  | .scalar _ | .group _ => true
  | _ => false

/-- Values by their names, with one put behind those that have the same name. -/
def addNamed : List (Value × List Value) → Value → Value → List (Value × List Value)
  | [], name, value => [(name, [value])]
  | (other, values) :: rest, name, value =>
    if other.same name then (other, values ++ [value]) :: rest
    else (other, values) :: addNamed rest name value

/-- Puts the second part of a value behind those that have its first part as their name. -/
def addPair (named : List (Value × List Value)) (pair : Value) :
    Except Fault (List (Value × List Value)) := do
  let name ← partAt pair 0
  if isName name then
    let value ← partAt pair 1
    .ok (addNamed named name value)
  else .error (.unhashable name.kindName)

/-- The values under one name: the items of a list, or a single one. -/
def valuesOf : Value → List Value
  | .list items | .group items => items
  | value => [value]

/-- Parameters with texts for names and values; a later name takes the place of an equal one. -/
def parametersOfNamed (named : List (Value × List Value)) : Parameters :=
  named.foldl
    (fun parameters (name, values) => parameters.put name.plain (values.map parameterText)) []

/-- The parameters that a value stands for: a mapping by its entries, a list by its pairs, and a text as
a query. -/
def parametersOf (value : Value) : Except Fault Parameters :=
  if !value.truthy then .ok []
  else match value with
    | .dict entries =>
      .ok (parametersOfNamed (entries.map fun (name, value) => (.scalar name, valuesOf value)))
    | .list items | .group items => parametersOfNamed <$> items.foldlM addPair []
    | .text query => .ok (Parameters.ofQuery query.toList)
    | other => .error (.lacksMember other.kindName "items")

/-- The headers that a value stands for: the entries of a mapping, and none for nothing. -/
def headersOf (value : Value) : Except Fault (List (String × String)) :=
  if !value.truthy then .ok []
  else match value with
    | .dict entries =>
      let named : Parameters := entries.foldl
        (fun headers (name, value) => headers.put name.plain [value.plain]) []
      .ok named.pairs
    | other => .error (.lacksMember other.kindName "items")

/-- The fault of a text that holds characters beyond those of headers, if it does. -/
def headerFault? (text : String) : Option Fault :=
  let plain (c : Char) : Bool := c.toNat < 0x80
  match text.toList.dropWhile plain with
  | [] => none
  | _ :: rest =>
    let start := (text.toList.takeWhile plain).length
    let more := (rest.takeWhile (!plain ·)).length
    some (.unencodable (some "ascii") text start (start + more + 1) "ordinal not in range(128)")

/-- The fault of a scalar that cannot stand in a body. -/
def scalarBodyFault? : Scalar → Option Fault
  | .float value =>
    if value.isFinite then none
    else some (.stated "ValueError" "Out of range float values are not JSON compliant")
  | other => (Json.scalarFault? false other).map .unwritable

/-- The fault of a name that cannot stand in a body. -/
def keyBodyFault? : Scalar → Option Fault
  | .float value => scalarBodyFault? (.float value)
  | other => (Json.keyFault? other).map .unwritable

mutual

/-- The fault of the first part of a value that cannot stand in a body. -/
def bodyFault? : Value → Option Fault
  | .scalar value => scalarBodyFault? value
  | .list items => itemsBodyFault? items
  | .group items => itemsBodyFault? items
  | .set members => some (.unwritable (.value (Value.set members).kindName))
  | .loop _ _ => some (.unwritable .loop)
  | .dict entries => entriesBodyFault? entries

/-- The fault of the first item that cannot stand in a body. -/
def itemsBodyFault? : List Value → Option Fault
  | [] => none
  | item :: rest => (bodyFault? item).or (itemsBodyFault? rest)

/-- The fault of the first entry that cannot stand in a body. -/
def entriesBodyFault? : List (Scalar × Value) → Option Fault
  | [] => none
  | (name, value) :: rest =>
    (keyBodyFault? name).or ((bodyFault? value).or (entriesBodyFault? rest))

end

/-- The value that the document of a body stands for, as whoever receives it reads it. -/
def received (value : Value) : Value :=
  match Json.read (Json.render value) with
  | .ok value => value
  | .error _ => value

end Workflow.Http
