import Workflow.Yaml.Node
import Workflow.Yaml.ScalarValue

/-!
# Reading YAML

The value of a document. Lists and mappings are begun when they are met and filled level by level, so that
a node may stand inside itself, and what is wrong at an outer level is told first. A mapping may take
over the entries of others; its own entries win over those, and of several others the first.
-/

namespace Workflow.Yaml

/-- What is known of the value of a node: a scalar, or the numbers of the nodes inside. -/
inductive Part where
  | scalar (value : Scalar)
  | list (items : List Nat)
  | pairs (pairs : List (Nat × Nat))
  | set (members : List Scalar)
  | dict (entries : List (Scalar × Nat))

/-- The values of nodes while they are built: the nodes, what is known of their values, and the lists and
mappings that were begun, the latest first. -/
structure Building where
  nodes : Array Node
  parts : Array (Option Part)
  begun : List Nat

/-- Building values. -/
abbrev Build := StateT Building (Except YamlError)

namespace Build

/-- Refuses the document. -/
def refuse {α : Type} : Build α := throw .malformed

/-- The node with a number. -/
def node (number : Nat) : Build Node := return ((← get).nodes[number]?).getD .absent

/-- Puts a node in the place of the one with a number. -/
def setNode (number : Nat) (node : Node) : Build Unit :=
  modify fun building => { building with nodes := building.nodes.setIfInBounds number node }

/-- Notes down what is known of the value of a node. -/
def setPart (number : Nat) (part : Part) : Build Unit :=
  modify fun building => { building with parts := building.parts.setIfInBounds number (some part) }

/-- The entries of a mapping. -/
def entries (number : Nat) : Build (List (Nat × Nat)) := do
  match ← node number with
  | .mapping _ entries => pure entries
  | _ => pure []

/-- Sets the entries of a mapping. -/
def setEntries (number : Nat) (entries : List (Nat × Nat)) : Build Unit := do
  match ← node number with
  | .mapping kind _ => setNode number (.mapping kind entries)
  | _ => pure ()

/-- The text of a node that stands for a scalar. A mapping stands for the default value among its
entries. -/
def scalarText : (fuel : Nat) → Node → Build String
  | 0, _ => refuse
  | fuel + 1, shape => do
    match shape with
    | .scalar _ text => pure text
    | .sequence _ _ => refuse
    | .mapping _ entries => do
      let defaults ← entries.filterM fun entry => return (← node entry.1).kind = .defaultKey
      match defaults.head? with
      | some (_, value) => do scalarText fuel (← node value)
      | none => refuse

/-- What is known of the value of a node. A list or mapping is begun and left to be filled. -/
def part (number : Nat) : Build Part := do
  let building ← get
  match building.parts[number]? with
  | some (some part) => pure part
  | _ => do
    let shape ← node number
    let start (part : Part) : Build Part := do
      setPart number part
      modify fun building => { building with begun := number :: building.begun }
      pure part
    match shape.kind with
    | .sequence => start (.list [])
    | .mapping => start (.dict [])
    | .set => start (.set [])
    | .pairs => start (.pairs [])
    | kind => do
      let text ← scalarText (building.nodes.size + 1) shape
      match kind, shape with
      | .timestamp, .mapping _ _ =>
        throw (.kind "TypeError" "expected string or bytes-like object, got 'list'")
      | _, _ => do
        let value ← scalarValue (3 + 2 * number) kind text
        setPart number (.scalar value)
        pure (.scalar value)

/-- The entries of a mapping of a sequence, after its own entries were made complete. -/
def takenItems (complete : Nat → Build Unit) : List Nat → Build (List (Nat × Nat))
  | [] => pure []
  | item :: rest => do
    match ← node item with
    | .mapping _ _ => do
      complete item
      let taken ← entries item
      return (← takenItems complete rest) ++ taken
    | _ => refuse

/-- The entries that a mapping takes over, from the entry at the given place on; the keys that say so are
left out of it. -/
def taken (complete : Nat → Build Unit) (number : Nat) : (fuel : Nat) → (place : Nat) →
    Build (List (Nat × Nat))
  | 0, _ => pure []
  | fuel + 1, place => do
    let own ← entries number
    match own[place]? with
    | none => pure []
    | some (key, value) => do
      match (← node key).kind with
      | .merge => do
        setEntries number (own.eraseIdx place)
        let found ← match ← node value with
          | .mapping _ _ => do
            complete value
            entries value
          | .sequence _ items => takenItems complete items
          | .scalar _ _ => refuse
        return found ++ (← taken complete number fuel place)
      | .defaultKey => do
        match ← node key with
        | .scalar _ text => setNode key (.scalar .text text)
        | .sequence _ items => setNode key (.sequence .text items)
        | .mapping _ entries => setNode key (.mapping .text entries)
        taken complete number fuel (place + 1)
      | _ => taken complete number fuel (place + 1)

/-- Makes the entries of a mapping complete: those that it takes over come before its own. -/
def complete : (depth : Nat) → (number : Nat) → Build Unit
  | 0, _ => refuse
  | depth + 1, number => do
    let own ← entries number
    let found ← taken (complete depth) number (own.length + 1) 0
    setEntries number (found ++ (← entries number))

/-- The entries of a mapping, with their keys, which have to be scalars. -/
def keyed : List (Nat × Nat) → Build (List (Scalar × Nat))
  | [] => pure []
  | (key, value) :: rest => do
    match ← part key with
    | .scalar name => do
      let _ ← part value
      return (name, value) :: (← keyed rest)
    | _ => refuse

/-- The pairs of a list, each written as a mapping with one entry. -/
def paired : List Nat → Build (List (Nat × Nat))
  | [] => pure []
  | item :: rest => do
    match ← node item with
    | .mapping _ [(key, value)] => do
      let _ ← part key
      let _ ← part value
      return (key, value) :: (← paired rest)
    | _ => refuse

/-- Fills a list or mapping that was begun. -/
def fill (number : Nat) : Build Unit := do
  let shape ← node number
  match shape.kind, shape with
  | .sequence, .sequence _ items => do
    for item in items do
      let _ ← part item
    setPart number (.list items)
  | .pairs, .sequence _ items => do setPart number (.pairs (← paired items))
  | .mapping, .mapping _ _ => do
    complete ((← get).nodes.size + 1) number
    setPart number (.dict (← keyed (← entries number)))
  | .set, .mapping _ _ => do
    complete ((← get).nodes.size + 1) number
    setPart number (.set ((← keyed (← entries number)).map (·.1)))
  | _, _ => refuse

/-- Fills all lists and mappings, level by level. -/
def fillAll : (fuel : Nat) → Build Unit
  | 0 => pure ()
  | fuel + 1 => do
    let level := (← get).begun.reverse
    if level.isEmpty then pure ()
    else
      modify fun building => { building with begun := [] }
      level.forM fill
      fillAll fuel

end Build

/-- The value of the node with a number, inside others of which the innermost comes first. -/
def valueOf (parts : Array (Option Part)) :
    (fuel : Nat) → (above : List (Option Nat)) → (number : Nat) → Value
  | 0, _, _ => .null
  | fuel + 1, above, number =>
    let inside := some number :: above
    let known := (parts[number]?).join.getD (.scalar .null)
    match known, above.findIdx? (· == some number) with
    | .scalar value, _ => .scalar value
    | .set members, _ =>
      .set ((Dict.ofEntries (members.map fun member => (member, Value.null))).map (·.1))
    | .dict _, some levels => .loop (levels + 1) false
    | _, some levels => .loop (levels + 1) true
    | .list items, none => .list (items.map (valueOf parts fuel inside))
    | .pairs pairs, none =>
      .list (pairs.map fun (key, value) =>
        .group [valueOf parts fuel (none :: inside) key, valueOf parts fuel (none :: inside) value])
    | .dict entries, none =>
      .dict (Dict.ofEntries (entries.map fun (key, value) => (key, valueOf parts fuel inside value)))

/-- The value of a document. -/
def Graph.value (graph : Graph) : Except YamlError Value := do
  let size := graph.nodes.size
  let build : Build Unit := do
    let _ ← Build.part graph.root
    Build.fillAll (size + 1)
  let ((), built) ← build.run ⟨graph.nodes, Array.replicate size none, []⟩
  .ok (valueOf built.parts (size + 1) [] graph.root)

/-- The fault of a document that is not read. -/
def YamlError.fault : YamlError → Fault
  | .malformed => .malformedYaml
  | .kind name text => .stated name text

/-- The value of a document; an empty one has the value null. -/
def read (text : String) : Except YamlError Value := do
  match ← Graph.ofTokens? (tokenize text) with
  | some graph => graph.value
  | none => .ok .null

end Workflow.Yaml
