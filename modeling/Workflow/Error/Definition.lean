import Workflow.Value.Display

/-!
# Errors in definitions

What may be wrong with the definition of a workflow, told with the field at fault, a short view of the
definition and advice. `DefinitionFault` is the cause; its words, its field and its advice are read off
it.
-/

namespace Workflow

/-- The rule for names of workflows and steps. -/
def identifierRule : String := "^[A-Za-z][A-Za-z0-9_-]*$"

/-- How many entries of a definition a view shows. -/
def excerptLimit : Nat := 10

/-- How many characters of a text a view shows. -/
def excerptLength : Nat := 200

/-- The first characters of a text. -/
def clipped (count : Nat) (s : String) : String :=
  String.ofList (s.toList.take count)

/-- A short view of a value inside a definition: collections are shown by their size. -/
def excerptValue : Value → Value
  | .list items => .text s!"<list of {items.length}>"
  | .dict entries => .text s!"<dict of {entries.length}>"
  | other => other

/-- A short view of a definition: the first entries of a mapping, or the start of the text of anything
else. A definition that is empty or not given has an empty view. -/
def excerpt (definition : Value) : Dict :=
  if !definition.truthy then []
  else match definition with
    | .dict entries =>
      (List.take excerptLimit entries).map fun (key, value) => (key, excerptValue value)
    | other => Dict.ofFields [("raw", .text (clipped excerptLength other.display))]

/-- What is wrong with a definition. -/
inductive DefinitionFault where
  /-- The text is no JSON document. -/
  | invalidJson (reason raw : String)
  /-- The file is no YAML document. -/
  | invalidYaml (path : String)
  | missingField (field : String)
  | invalidName (name : Value) (reason : Option String)
  | emptyWorkflow (name : Value)
  | invalidStepId (id : Value)
  | duplicateStepId (id : String)
  | invalidStep (step reason field : String)
  | invalidRetryAttempts (attempts : Value) (step : Option String)
  | invalidTimeout (timeout : Value) (step : Option String)
  | invalidTransition (index : Int) (reason : String)
  /-- An end of a transition names no declared step. -/
  | unknownTransitionStep (index : Int) (endpoint : String) (step : Value) (known : List String)
  | invalidCondition (condition : Value) (field : String)
  /-- A field has a value of the wrong kind. -/
  | wrongType (field expected : String) (value : Value)
  | delayNotPositive (seconds minutes hours : Value)
  /-- Anything else, told in words. -/
  | stated (message : String) (field : Option String) (suggestions : List String) (details : Dict)
  deriving DecidableEq

namespace DefinitionFault

/-- The words ` for step '...'`, if a step is named. -/
def whichStep : Option String → String
  | some step => if step = "" then "" else s!" for step '{step}'"
  | none => ""

/-- A field of a step, or the field alone if no step is named. -/
def stepField (step : Option String) (field : String) : String :=
  match step with
  | some step => if step = "" then field else s!"steps.{step}.{field}"
  | none => field

/-- The message for a fault. -/
def message : DefinitionFault → String
  | .invalidJson reason _ => s!"Invalid JSON definition: {reason}"
  | .invalidYaml path => s!"Invalid YAML definition in {path}: "
  | .missingField field => s!"Required field '{field}' is missing from workflow definition"
  | .invalidName name reason =>
    let tail := match reason with
      | some reason => if reason = "" then "" else s!". {reason}"
      | none => ""
    s!"Invalid workflow name: '{name.plain}'{tail}"
  | .emptyWorkflow name => s!"Workflow '{name.plain}' must have at least one step"
  | .invalidStepId id => s!"Invalid step ID: '{id.plain}'"
  | .duplicateStepId id =>
    s!"Duplicate step ID: '{id}'. Step IDs must be unique within a workflow"
  | .invalidStep step reason _ => s!"Step '{step}' has invalid configuration: {reason}"
  | .invalidRetryAttempts attempts step =>
    s!"Invalid retry attempts{whichStep step}: {attempts.display}. Must be a non-negative integer"
  | .invalidTimeout timeout step => s!"Invalid timeout{whichStep step}: {timeout.display}"
  | .invalidTransition index reason => s!"Transition #{index} is invalid: {reason}"
  | .unknownTransitionStep index _ step _ =>
    s!"Transition #{index} references unknown step: {step.plain}"
  | .invalidCondition condition _ =>
    s!"Invalid condition expression: {condition.display}. Condition cannot be empty"
  | .wrongType field expected value =>
    s!"Field '{field}' must be {expected}, got {value.kindName}"
  | .delayNotPositive _ _ _ => "Delay requires a positive duration"
  | .stated message _ _ _ => message

/-- The value of a definition that the message for a fault shows. -/
def shown : DefinitionFault → Value
  | .invalidName name _ | .emptyWorkflow name => name
  | .invalidStepId id => id
  | .invalidRetryAttempts attempts _ => attempts
  | .invalidTimeout timeout _ => timeout
  | .unknownTransitionStep _ _ step _ => step
  | .invalidCondition condition _ => condition
  | _ => .null

/-- The field at fault. -/
def field : DefinitionFault → Option String
  | .invalidJson _ _ => none
  | .invalidYaml _ => none
  | .missingField field => some field
  | .invalidName _ _ => some "name"
  | .emptyWorkflow _ => some "steps"
  | .invalidStepId _ => some "steps.id"
  | .duplicateStepId _ => some "steps.id"
  | .invalidStep step _ field => some s!"steps.{step}.{field}"
  | .invalidRetryAttempts _ step => some (stepField step "retry_attempts")
  | .invalidTimeout _ step => some (stepField step "timeout")
  | .invalidTransition index _ => some s!"transitions[{index}]"
  | .unknownTransitionStep index endpoint _ _ => some s!"transitions[{index}].{endpoint}"
  | .invalidCondition _ field => some field
  | .wrongType field _ _ => some field
  | .delayNotPositive _ _ _ => some "delay"
  | .stated _ field _ _ => field

/-- What is told about a fault besides its field. -/
def details : DefinitionFault → Dict
  | .invalidName name _ =>
    Dict.ofFields [("provided_name", name), ("validation_rule", .text identifierRule)]
  | .invalidStepId id =>
    Dict.ofFields [("provided_step_id", id), ("validation_rule", .text identifierRule)]
  | .duplicateStepId id => Dict.ofFields [("duplicate_step_id", .text id)]
  | .invalidStep step _ _ => Dict.ofFields [("step_id", .text step)]
  | .invalidRetryAttempts attempts _ =>
    Dict.ofFields [("provided_attempts", attempts), ("valid_range", .text "0-10")]
  | .invalidTimeout timeout _ => Dict.ofFields [("provided_timeout", timeout)]
  | .unknownTransitionStep _ _ step known =>
    Dict.ofFields [("unknown_step_id", step), ("known_steps", .ofTexts known)]
  | .invalidCondition condition _ => Dict.ofFields [("provided_condition", condition)]
  | .delayNotPositive seconds minutes hours =>
    Dict.ofFields [("seconds", seconds), ("minutes", minutes), ("hours", hours)]
  | .stated _ _ _ details => details
  | _ => []

/-- What to do about a fault. -/
def suggestions : DefinitionFault → List String
  | .invalidJson _ _ =>
    ["Make sure the definition is a valid JSON document",
      "Pass a mapping instead of a string to skip deserialization"]
  | .invalidYaml _ => ["Check the YAML syntax of the definition file"]
  | .missingField field =>
    [s!"Add a '{field}' field to the definition", "Required fields are 'name' and 'steps'"]
  | .invalidName _ _ =>
    ["Use a name that starts with a letter",
      "Only use letters, numbers, hyphens and underscores",
      "Examples: \"user-onboarding\", \"order_processing\", \"documentApproval\""]
  | .emptyWorkflow _ =>
    ["Add at least one step to the 'steps' collection",
      "Steps may be a list of objects with an 'id' or a mapping keyed by id"]
  | .invalidStepId _ =>
    ["Step ids must start with a letter", "Only use letters, numbers, hyphens and underscores",
      "Examples: \"send_email\", \"validate_input\", \"process_payment\""]
  | .duplicateStepId _ =>
    ["Use unique step identifiers within each workflow",
      "Add a suffix to disambiguate, e.g. \"send_email_welcome\""]
  | .invalidStep step _ field => [s!"Fix the '{field}' field of step '{step}'"]
  | .invalidRetryAttempts _ _ =>
    ["Use a value between 0 and 10 for retry attempts",
      "Use 0 for no retries and 3 for moderate resilience"]
  | .invalidTimeout _ _ =>
    ["Use a duration string such as \"30s\", \"5m\", \"2h\" or \"1d\"",
      "Builder timeouts may also be positive integers (seconds)"]
  | .invalidTransition _ _ =>
    ["Each transition needs non-empty 'from' and 'to' step ids",
      "Optional keys are 'condition' (string) and 'metadata' (mapping)"]
  | .unknownTransitionStep _ _ _ known =>
    ["Transition endpoints must name declared steps",
      "Declared steps: " ++ joined ", " known]
  | .invalidCondition _ _ =>
    ["Use \"<left> <operator> <right>\", e.g. \"order.amount > 1000\"",
      "Supported operators: =, !=, >, <, >=, <=, is, is not",
      "Use dot notation for nested values: \"user.profile.type\""]
  | .wrongType field expected _ => [s!"Provide '{field}' as {expected}"]
  | .delayNotPositive _ _ _ => ["Pass seconds, minutes or hours greater than zero"]
  | .stated _ _ suggestions _ => suggestions

end DefinitionFault

/-- A fault in a definition, with a view of the definition, and the kind of the failure behind it if
there was one. -/
structure DefinitionError where
  fault : DefinitionFault
  view : Dict
  cause : Option String
  deriving DecidableEq

namespace DefinitionError

/-- The error for a fault in a definition that is at hand. -/
def of (fault : DefinitionFault) (definition : Value) : DefinitionError :=
  ⟨fault, excerpt definition, none⟩

/-- The error for a fault that no whole definition goes with. -/
def alone (fault : DefinitionFault) : DefinitionError :=
  ⟨fault, [], none⟩

/-- The error for a text that is no JSON document. -/
def invalidJson (reason raw : String) : DefinitionError :=
  ⟨.invalidJson reason raw, Dict.ofFields [("raw", .text (clipped excerptLength raw))], none⟩

/-- What is told about the error. -/
def context (error : DefinitionError) : Dict :=
  Dict.overlay
    (Dict.ofFields [("field", .ofText? error.fault.field), ("definition", .dict error.view)])
    error.fault.details

end DefinitionError

end Workflow
