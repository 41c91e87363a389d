import Workflow.Definition.Basic
import Workflow.Definition.Timeout
import Workflow.Schema
import Workflow.Text.Encoding

/-!
# Reading definitions

Definitions are written as mappings, as JSON text, or as bytes of JSON text. Steps are a list of
mappings with ids, or a mapping from ids to mappings; several fields may be left out, be null, or be
written in a short form. The reader checks every field and every end of a transition, and tells the
first fault in the order: name, version, metadata, ids of all steps, each step, each transition.
-/

namespace Workflow

/-- The most retries that a step should have; more are allowed, with a warning. -/
def recommendedRetryAttempts : Int := 10

namespace Definition

/-- What reading a part of a definition may fail with. -/
inductive ParseFault where
  /-- A rule of definitions is broken. -/
  | rule (fault : DefinitionFault)
  /-- A mapping has keys that are not texts. -/
  | keys (problems : List Problem)
  /-- A value that a message is to show has no text. -/
  | unshown
  deriving DecidableEq

/-- The result of reading a part of a definition. -/
abbrev Parsed (α : Type) := Except ParseFault α

/-- Refuses a part of a definition. -/
def refuse {α : Type} (fault : DefinitionFault) : Parsed α :=
  .error (.rule fault)

/-- Whether a value is a text that is not blank. -/
def isWord : Value → Bool
  | .text value => !Text.isBlankText value
  | _ => false

/-- A mapping whose keys are all texts, at a named field. -/
def textKeyed (field : String) (entries : Dict) : Parsed Dict :=
  match (Reader.dict (.dict entries)).under (.name field) with
  | .valid entries => .ok entries
  | .invalid problems => .error (.keys problems)

/-- Reads the name of a workflow. -/
def parseName (definition : Dict) : Parsed String :=
  match definition.field? "name" with
  | none | some .null | some (.text "") => refuse (.missingField "name")
  | some (.text name) =>
    if Text.isBlankText name then
      refuse (.invalidName (.text name) (some "Name must be a non-empty string"))
    else if !isIdentifier name then
      refuse (.invalidName (.text name) (some <| "Name must start with a letter and contain only " ++
        "letters, numbers, hyphens, and underscores"))
    else .ok name
  | some other => refuse (.invalidName other (some "Name must be a non-empty string"))

/-- Reads the version of a workflow, which is `1.0` when it is not given. -/
def parseVersion (definition : Dict) : Parsed String :=
  match definition.field? "version" with
  | none | some .null => .ok "1.0"
  | some (.text version) =>
    if Text.isBlankText version then
      refuse (.wrongType "version" "a non-empty string" (.text version))
    else .ok version
  | some other => refuse (.wrongType "version" "a non-empty string" other)

/-- Reads the metadata of a workflow. -/
def parseMetadata (definition : Dict) : Parsed Dict :=
  match definition.field? "metadata" with
  | none | some .null => .ok []
  | some (.dict metadata) => .ok metadata
  | some other => refuse (.wrongType "metadata" "a mapping" other)

/-- The fields of a step other than its id. -/
def withoutId (fields : Dict) : Dict :=
  fields.erase (.text "id")

/-- Reads the ids of steps that stand under keys. -/
def keyedSteps : List (Scalar × Value) → Parsed (List (String × Dict))
  | [] => .ok []
  | (key, value) :: rest => do
    let id ← match key with
      | .text id => if isIdentifier id then .ok id else refuse (.invalidStepId (.scalar key))
      | _ => refuse (.invalidStepId (.scalar key))
    let fields ← match value.opened with
      | .null => .ok []
      | .dict fields => .ok fields
      | _ => refuse (.invalidStep id "step must be a mapping" "step")
    match Dict.field? fields "id" with
    | some nested =>
      if nested.equals (.text id) then pure ()
      else if !nested.isShown then .error .unshown
      else refuse (.invalidStep id s!"nested id {nested.display} does not match its key" "id")
    | none => pure ()
    let steps ← keyedSteps rest
    .ok ((id, withoutId fields) :: steps)

/-- Reads the ids of steps that stand in a list; `seen` are the ids before, and `index` is the place of
the first step of the list. -/
def listedSteps (index : Nat) (seen : List String) : List Value → Parsed (List (String × Dict))
  | [] => .ok []
  | value :: rest => do
    let fields ← match value.opened with
      | .dict fields => .ok fields
      | _ => refuse (.invalidStep s!"#{index}" "step must be a mapping" "step")
    let id ← match Dict.field? fields "id" with
      | none => refuse (.missingField s!"steps[{index}].id")
      | some (.text id) =>
        if isIdentifier id then .ok id else refuse (.invalidStepId (.text id))
      | some other => refuse (.invalidStepId other)
    if seen.contains id then refuse (.duplicateStepId id)
    else do
      let steps ← listedSteps (index + 1) (seen ++ [id]) rest
      .ok ((id, withoutId fields) :: steps)

/-- Reads the ids of all steps, each with the other fields of the step. -/
def parseStepIds (definition : Dict) : Parsed (List (String × Dict)) :=
  let name := (definition.field? "name").getD .null
  match (definition.field? "steps").map Value.opened with
  | none | some .null => refuse (.missingField "steps")
  | some (.list []) | some (.dict []) => refuse (.emptyWorkflow name)
  | some (.list steps) => listedSteps 0 [] steps
  | some (.dict steps) => keyedSteps steps
  | some other => refuse (.wrongType "steps" "a list or a mapping" other)

/-- Reads the name of an action, which may be left out. -/
def parseReference (id : String) (fields : Dict) (field : String) : Parsed (Option String) :=
  match fields.field? field with
  | none | some .null => .ok none
  | some value =>
    match value with
    | .text action =>
      if isWord value then .ok (some action)
      else refuse (.invalidStep id (field ++ " must be a non-empty string") field)
    | _ => refuse (.invalidStep id (field ++ " must be a non-empty string") field)

/-- Reads the timeout of a step. -/
def parseTimeout (id : String) (fields : Dict) : Parsed (Option String) :=
  match fields.field? "timeout" with
  | none | some .null => .ok none
  | some (.text timeout) =>
    if isTimeout timeout then .ok (some timeout)
    else refuse (.invalidTimeout (.text timeout) (some id))
  | some other => refuse (.invalidTimeout other (some id))

/-- Reads how often a step is retried. -/
def parseRetryAttempts (id : String) (fields : Dict) : Parsed Int :=
  match fields.field? "retry_attempts" with
  | none | some .null => .ok 0
  | some (.int attempts) =>
    if attempts < 0 then refuse (.invalidRetryAttempts (.int attempts) (some id))
    else if !(Scalar.int attempts).isShown then .error .unshown
    else .ok attempts
  | some other => refuse (.invalidRetryAttempts other (some id))

/-- Reads the parameters of a step, which may be called its config. -/
def parseParameters (id : String) (fields : Dict) : Parsed Dict :=
  match (fields.field? "parameters").or (fields.field? "config") with
  | none | some .null => .ok []
  | some (.dict parameters) => .ok parameters
  | some _ => refuse (.invalidStep id "parameters must be a mapping" "parameters")

/-- Reads conditions that all have to be texts that are not blank. -/
def parseConditionItems (id : String) : List Value → Parsed (List String)
  | [] => .ok []
  | item :: rest => do
    let condition ← match item with
      | .text condition =>
        if isWord item then .ok condition
        else refuse (.invalidCondition item s!"steps.{id}.conditions")
      | _ => refuse (.invalidCondition item s!"steps.{id}.conditions")
    let rest ← parseConditionItems id rest
    .ok (condition :: rest)

/-- Reads the conditions of a step; a single one may stand without a list. -/
def parseConditions (id : String) (fields : Dict) : Parsed (List String) :=
  match fields.field? "conditions" with
  | none | some .null => .ok []
  | some (.text condition) => parseConditionItems id [.text condition]
  | some (.list items) => parseConditionItems id items
  | some _ => refuse (.invalidStep id "conditions must be a list of strings" "conditions")

/-- The fields of a step that are read before it is known how often it is retried. -/
structure StepHead where
  action : Option String
  compensation : Option String
  timeout : Option String
  retryAttempts : Int

/-- Reads the first fields of a step. -/
def parseStepHead (id : String) (fields : Dict) : Parsed StepHead := do
  let action ← parseReference id fields "action"
  let compensation ← parseReference id fields "compensation"
  let timeout ← parseTimeout id fields
  let retryAttempts ← parseRetryAttempts id fields
  .ok ⟨action, compensation, timeout, retryAttempts⟩

/-- Reads a step. -/
def parseStep (id : String) (fields : Dict) : Parsed Step := do
  let head ← parseStepHead id fields
  let parameters ← parseParameters id fields
  let conditions ← parseConditions id fields
  let parameters ← textKeyed "parameters" parameters
  .ok ⟨id, head.action, parameters, head.timeout, head.retryAttempts, conditions, head.compensation⟩

/-- Reads all steps. -/
def parseSteps : List (String × Dict) → Parsed (List (String × Step))
  | [] => .ok []
  | (id, fields) :: rest => do
    let step ← parseStep id fields
    let steps ← parseSteps rest
    .ok ((id, step) :: steps)

/-- The warning for a step that is retried more often than it should be. -/
def retryWarning? (id : String) (attempts : Int) : Option String :=
  if recommendedRetryAttempts < attempts then
    some <| s!"Step {id} configures {attempts} retry attempts " ++
      s!"(recommended maximum is {recommendedRetryAttempts})"
  else none

/-- The warnings given while steps are read, up to the first step that is refused. -/
def stepWarnings : List (String × Dict) → List String
  | [] => []
  | (id, fields) :: rest =>
    match parseStepHead id fields with
    | .error _ => []
    | .ok head =>
      (retryWarning? id head.retryAttempts).toList ++
        match parseStep id fields with
        | .error _ => []
        | .ok _ => stepWarnings rest

/-- Reads one end of a transition, which has to name a declared step. -/
def parseEndpoint (index : Nat) (known : List String) (fields : Dict) (endpoint : String) :
    Parsed String :=
  match fields.field? endpoint with
  | some (.text id) =>
    if Text.isBlankText id then
      refuse (.invalidTransition index s!"'{endpoint}' must be a non-empty string")
    else if known.contains id then .ok id
    else refuse (.unknownTransitionStep index endpoint (.text id) known)
  | _ => refuse (.invalidTransition index s!"'{endpoint}' must be a non-empty string")

/-- Reads the condition of a transition. -/
def parseTransitionCondition (index : Nat) (fields : Dict) : Parsed (Option String) :=
  match fields.field? "condition" with
  | none | some .null => .ok none
  | some value =>
    match value with
    | .text condition =>
      if isWord value then .ok (some condition)
      else refuse (.invalidCondition value s!"transitions[{index}].condition")
    | _ => refuse (.invalidCondition value s!"transitions[{index}].condition")

/-- Reads a transition. -/
def parseTransition (index : Nat) (known : List String) (value : Value) : Parsed Transition :=
  match value.opened with
  | .dict fields => do
    let source ← parseEndpoint index known fields "from"
    let target ← parseEndpoint index known fields "to"
    let condition ← parseTransitionCondition index fields
    let metadata ← match Dict.field? fields "metadata" with
      | none | some .null => .ok []
      | some (.dict metadata) => .ok metadata
      | some _ => refuse (.invalidTransition index "'metadata' must be a mapping")
    let metadata ← textKeyed "metadata" metadata
    .ok ⟨source, target, condition, metadata⟩
  | _ => refuse (.invalidTransition index "transition must be a mapping")

/-- Reads transitions, of which the first stands at the given place. -/
def parseTransitionItems (index : Nat) (known : List String) :
    List Value → Parsed (List Transition)
  | [] => .ok []
  | item :: rest => do
    let transition ← parseTransition index known item
    let rest ← parseTransitionItems (index + 1) known rest
    .ok (transition :: rest)

/-- Reads all transitions. -/
def parseTransitions (definition : Dict) (known : List String) : Parsed (List Transition) :=
  match (definition.field? "transitions").map Value.opened with
  | none | some .null => .ok []
  | some (.list items) => parseTransitionItems 0 known items
  | some other => refuse (.wrongType "transitions" "a list" other)

/-- The parts of a definition that are read before its steps. -/
def parseHeader (definition : Dict) : Parsed (String × String × Dict × List (String × Dict)) := do
  let name ← parseName definition
  let version ← parseVersion definition
  let metadata ← parseMetadata definition
  let steps ← parseStepIds definition
  .ok (name, version, metadata, steps)

/-- Reads a definition from a mapping. -/
def parseDict (definition : Dict) : Parsed Definition := do
  let (name, version, metadata, rawSteps) ← parseHeader definition
  let steps ← parseSteps rawSteps
  let transitions ← parseTransitions definition (steps.map (·.1))
  let metadata ← textKeyed "metadata" metadata
  .ok ⟨name, version, steps, transitions, metadata⟩

/-- The warnings given while a definition is read from a mapping. -/
def dictWarnings (definition : Dict) : List String :=
  match parseHeader definition with
  | .error _ => []
  | .ok (_, _, _, rawSteps) => stepWarnings rawSteps

/-- What a definition is read from. -/
inductive Source where
  /-- A mapping, or a text of JSON. -/
  | document (value : Value)
  /-- The bytes of a text of JSON. -/
  | bytes (bytes : List UInt8)
  /-- A definition that is at hand. -/
  | ready (definition : Definition)

/-- Decodes a text of JSON; `raw` is what an error shows of it. -/
def decodeText (read : String → Except Json.ReadError Value) (text raw : String) :
    Except Failure Value :=
  match read text with
  | .ok value => .ok value
  | .error (.malformed reason _) =>
    .error (.definition
      { DefinitionError.invalidJson reason.message raw with cause := some "JSONDecodeError" })
  | .error (.integerTooLong digits) => .error (.integer (.tooLong digits))

/-- Decodes the bytes of a text of JSON. -/
def decodeBytes (data : List UInt8) : Except Failure Value :=
  match Text.decodeJsonBytes? data with
  | some text => decodeText Json.readDecoded text (Text.decodeUtf8Lossy data)
  | none => .error (.fault .undecodable)

/-- The value that a source holds, unless it is a definition already. -/
def Source.decode : Source → Except Failure (Definition ⊕ Value)
  | .ready known => .ok (.inl known)
  | .document (.text text) => .inr <$> decodeText Json.read text text
  | .document (.bytes data) => .inr <$> decodeBytes data
  | .document value => .ok (.inr value.opened)
  | .bytes data => .inr <$> decodeBytes data

/-- Reads a definition from any source. -/
def parse (source : Source) : Except Failure Definition := do
  match ← source.decode with
  | .inl definition => .ok definition
  | .inr (.dict definition) =>
    match parseDict definition with
    | .ok parsed => .ok parsed
    | .error (.rule fault) =>
      if !fault.shown.isShown then .error (.fault .unshown)
      else .error (.definition (.of fault (.dict definition)))
    | .error (.keys problems) => .error (.invalid problems)
    | .error .unshown => .error (.fault .unshown)
  | .inr other => .error (.definition (.alone (.wrongType "definition" "a mapping" other)))

/-- The warnings given while a definition is read from any source. -/
def warnings (source : Source) : List String :=
  match source.decode with
  | .ok (.inr (.dict definition)) => dictWarnings definition
  | _ => []

end Definition

end Workflow
