import Workflow.Error.Fault

/-!
# Values in the form that is asked for

An operation on texts, lists or mappings may be given any value. Each function here gives a value in the
form that an operation asks for, or the fault of having asked it of a value that has no such form.
-/

namespace Workflow

namespace Value

/-- The characters of a text, each as a text. -/
def characters (content : String) : List Value :=
  content.toList.map fun c => .text (String.singleton c)

/-- The text that a named operation of texts is asked of. -/
def asked (operation : String) : Value → Except Fault String
  | .text content => .ok content
  | other => .error (.lacksMember other.kindName operation)

/-- The text that a pattern is looked for in. -/
def searched : Value → Except Fault String
  | .text content => .ok content
  | other =>
    .error <| .stated "TypeError" <|
      s!"expected string or bytes-like object, got {Text.quoted other.kindName}"

/-- The mapping whose entries are put into another one. -/
def spread : Value → Except Fault Dict
  | .dict entries => .ok entries
  | other => .error (.stated "TypeError" s!"{Text.quoted other.kindName} object is not a mapping")

/-- The parts that a value is taken apart into: the items of a list, the characters of a text, or the keys
of a mapping. -/
def parts : Value → Except Fault (List Value)
  | .list items => .ok items
  | .text content => .ok (characters content)
  | .dict entries => .ok (entries.map fun entry => .scalar entry.1)
  | other => .error (.notIterable other.kindName)

/-- The name that a value is looked up by, if it can be one. Lists and mappings cannot be looked up. -/
def key? : Value → Except Fault (Option String)
  | .text name => .ok (some name)
  | .scalar _ => .ok none
  | other => .error (.unhashable other.kindName)

/-- One entry of a mapping that is made from pairs. -/
def pairEntry (index : Nat) (item : Value) : Except Fault (Scalar × Value) := do
  let parts ← match item with
    | .list parts => .ok parts
    | .dict entries => .ok (entries.map fun entry => Value.scalar entry.1)
    | .text content => .ok (characters content)
    | _ => .error (.notAnEntry index)
  match parts with
  | [.scalar key, value] => .ok (key, value)
  | [other, _] => .error (.unhashable other.kindName)
  | parts => .error (.notAPair index parts.length)

/-- The entries that pairs make, from a place on: those up to the first item that is no pair, and what is
wrong with that one. -/
def pairEntries (index : Nat) : List Value → List (Scalar × Value) × Option Fault
  | [] => ([], none)
  | item :: rest =>
    match pairEntry index item with
    | .error fault => ([], some fault)
    | .ok entry =>
      let (entries, fault) := pairEntries (index + 1) rest
      (entry :: entries, fault)

/-- The entries that a value has to put into a mapping, and what is wrong with the value, if anything is.
They are those of a mapping, or come from pairs of a key and a value. -/
def offered : Value → List (Scalar × Value) × Option Fault
  | .dict entries => (entries, none)
  | .list items => pairEntries 0 items
  | .text content => pairEntries 0 (characters content)
  | other => ([], some (.notIterable other.kindName))

/-- The mapping that is made from a mapping, or from pairs of a key and a value. -/
def entries (value : Value) : Except Fault Dict :=
  match value.offered with
  | (entries, none) => .ok (Dict.ofEntries entries)
  | (_, some fault) => .error fault

end Value

/-- A value as a mapping: nothing is an empty one, and a list of pairs is one entry for each pair. -/
def Dict.ofValue (value : Value) : Except Fault Dict :=
  if value.truthy then value.entries else .ok []

end Workflow
