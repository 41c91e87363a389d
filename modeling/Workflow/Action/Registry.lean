import Workflow.Action.Builtin
import Workflow.Text.Order

/-!
# Registries of actions

A registry resolves the names by which steps refer to actions. What it keeps under a name is a maker
that, given the parameters of a step, gives the action itself.
-/

namespace Workflow

/-- Makers of actions under their names, in the order in which the names were first registered. -/
structure Registry (α : Type) where
  entries : List (String × α)

namespace Registry

variable {α : Type}

/-- The registry without actions. -/
def empty : Registry α := ⟨[]⟩

/-- The registry of the built-in actions. -/
def builtin : Registry Builtin := ⟨Builtin.all.map fun action => (action.key, action)⟩

/-- The registry with other makers under the same names. -/
def map {β : Type} (registry : Registry α) (image : α → β) : Registry β :=
  ⟨registry.entries.map fun (name, maker) => (name, image maker)⟩

/-- The maker under a name. -/
def find? (registry : Registry α) (name : String) : Option α :=
  registry.entries.lookup name

/-- Whether a name is registered. -/
def contains (registry : Registry α) (name : String) : Bool :=
  (registry.find? name).isSome

/-- How many names are registered. -/
def size (registry : Registry α) : Nat :=
  registry.entries.length

/-- The registered names in order. -/
def names (registry : Registry α) : List String :=
  Text.sorted (registry.entries.map (·.1))

/-- Entries with a maker put under a name: in the place of the entry of the name, or at the end. -/
def put (name : String) (maker : α) : List (String × α) → List (String × α)
  | [] => [(name, maker)]
  | (other, old) :: rest =>
    if other = name then (name, maker) :: rest else (other, old) :: put name maker rest

/-- Why an action is not registered. -/
inductive RegisterError where
  | invalidName
  | notCallable (name : String)
  deriving DecidableEq

/-- The fault of an action that is not registered. -/
def RegisterError.fault : RegisterError → Fault
  | .invalidName => .stated "ValueError" "Action name must be a non-empty string"
  | .notCallable name => .stated "TypeError" s!"Factory for action '{name}' is not callable"

/-- Registers a maker under a name that is not blank. Nothing stands for what cannot make actions. -/
def register (registry : Registry α) (name : Value) (maker : Option α) :
    Except RegisterError (Registry α) :=
  match name with
  | .text name =>
    if Text.isBlankText name then .error .invalidName
    else match maker with
      | none => .error (.notCallable name)
      | some maker => .ok ⟨put name maker registry.entries⟩
  | _ => .error .invalidName

/-- The line for a name whose maker is replaced. -/
def replacingLine (name : String) : String :=
  s!"Replacing action factory for '{name}'"

/-- Whether a value is a registered name. -/
def holds (registry : Registry α) (name : Value) : Except Fault Bool :=
  name.key?.map (·.any registry.contains)

/-- Takes a name out of a registry, if it is there. In an empty registry nothing is looked up. -/
def unregister (registry : Registry α) (name : Value) : Except Fault (Registry α) :=
  if registry.entries.isEmpty then .ok registry
  else name.key?.map fun key => ⟨registry.entries.filter fun entry => some entry.1 != key⟩

/-- The maker under a name that a step refers to. -/
def resolve (registry : Registry α) (name : Value) (step : Option String) : Except Failure α := do
  let key ← name.key?.mapError .fault
  match key.bind registry.find? with
  | some maker => .ok maker
  | none => .error (.workflow (.actionNotFound name step registry.names))

end Registry

end Workflow
