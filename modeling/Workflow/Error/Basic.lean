import Workflow.Definition.Timeout
import Workflow.Error.Definition
import Workflow.Error.Evaluation
import Workflow.Error.Fault
import Workflow.Error.Step
import Workflow.Error.Transition

/-!
# Failures

Everything that an operation of the library may fail with: an error of workflows, a document whose
fields have the wrong form, or a fault from outside. All have a kind and a text; errors of workflows
also have a message for users, a context and suggestions.
-/

namespace Workflow

/-- An error of workflows. -/
inductive WorkflowError where
  | plain (message : String) (context : Dict) (suggestions : List String)
  | definition (error : DefinitionError)
  | transition (error : TransitionError)
  /-- The store has no instance with the id; the kind of the store is told if it is known. -/
  | instanceNotFound (id : String) (storage : Option String)
  /-- No action is registered under the name. -/
  | actionNotFound (action : Value) (step : Option String) (available : List String)
  | step (error : StepError)
  | evaluation (error : EvaluationError)
  deriving DecidableEq

namespace WorkflowError

/-- The name of the kind of an error. -/
def kind : WorkflowError → String
  | .plain _ _ _ => "WorkflowError"
  | .definition _ => "InvalidDefinitionError"
  | .transition error =>
    if error.ofOperation then "InvalidWorkflowStateError" else "InvalidStateTransitionError"
  | .instanceNotFound _ _ => "WorkflowInstanceNotFoundError"
  | .actionNotFound _ _ _ => "ActionNotFoundError"
  | .step _ => "StepExecutionError"
  | .evaluation _ => "EvaluationError"

/-- The message of an error. -/
def message : WorkflowError → String
  | .plain message _ _ => message
  | .definition error => error.fault.message
  | .transition error => error.message
  | .instanceNotFound id _ => s!"Workflow instance '{id}' was not found"
  | .actionNotFound action stepId _ =>
    s!"Action '{action.plain}'{DefinitionFault.whichStep stepId} could not be resolved"
  | .step error => error.message
  | .evaluation error => error.message

/-- What is told about an error. -/
def context : WorkflowError → Dict
  | .plain _ context _ => context
  | .definition error => error.context
  | .transition error => error.context
  | .instanceNotFound id storage =>
    Dict.ofFields [("instance_id", .text id), ("storage_type", .ofText? storage)]
  | .actionNotFound action stepId available =>
    Dict.ofFields [("action", action), ("step_id", .ofText? stepId),
      ("available_actions", .ofTexts available)]
  | .step error => error.context
  | .evaluation error => error.context

/-- The message for a user. -/
def userMessage : WorkflowError → String
  | .definition error =>
    "The workflow definition contains errors and cannot be processed. " ++ error.fault.message
  | .transition error => error.userMessage
  | .step error => error.userMessage
  | other => other.message

/-- Advice where there is none of its own. -/
def generalSuggestions : List String :=
  ["Check the workflow definition for errors",
    "Verify that every referenced action is registered",
    "Review the execution logs for additional context"]

/-- The given advice, or the general one if there is none. -/
def orGeneral (suggestions : List String) : List String :=
  if suggestions.isEmpty then generalSuggestions else suggestions

/-- What to do about an error. -/
def suggestions : WorkflowError → List String
  | .plain _ _ suggestions => orGeneral suggestions
  | .definition error => orGeneral error.fault.suggestions
  | .transition error => error.suggestions
  | .instanceNotFound _ _ =>
    ["Check the instance id for typos",
      "Make sure the engine uses the same storage backend that started it"]
  | .actionNotFound action _ available =>
    [s!"Register '{action.plain}' with ActionRegistry.register() before running",
      "Check the action name spelling in the step definition"] ++
      if available.isEmpty then [] else ["Available actions: " ++ joined ", " available]
  | .step error => error.suggestions
  | .evaluation _ => EvaluationError.suggestions

/-- The kind of the failure behind an error, if there was one. -/
def causeKind : WorkflowError → Option String
  | .definition error => error.cause
  | .step error =>
    match error.cause with
    | .raised report => some report.kind
    | _ => none
  | _ => none

end WorkflowError

/-- One part of the way to a field. -/
inductive FieldStep where
  | name (name : String)
  | index (index : Int)
  deriving DecidableEq

/-- What is wrong with a field. -/
inductive FieldFault where
  | missing
  | frozen
  | notText
  | textBytes
  | notInteger
  | integerText
  | integerSize
  | integerFraction
  | notFinite
  | notFloat
  | floatText
  | notBool
  | boolText
  | notDict
  | notList
  | notRecord
  | notMember
  | notLiteral
  | notTimestamp
  | timestampText
  | timestampCount
  | tooSmall
  | below
  | refused
  deriving DecidableEq

/-- The name of what is wrong with a field. -/
def FieldFault.name : FieldFault → String
  | .missing => "missing"
  | .frozen => "frozen_instance"
  | .notText => "string_type"
  | .textBytes => "string_unicode"
  | .notInteger => "int_type"
  | .integerText => "int_parsing"
  | .integerSize => "int_parsing_size"
  | .integerFraction => "int_from_float"
  | .notFinite => "finite_number"
  | .notFloat => "float_type"
  | .floatText => "float_parsing"
  | .notBool => "bool_type"
  | .boolText => "bool_parsing"
  | .notDict => "dict_type"
  | .notList => "list_type"
  | .notRecord => "model_type"
  | .notMember => "enum"
  | .notLiteral => "literal_error"
  | .notTimestamp => "datetime_type"
  | .timestampText => "datetime_from_date_parsing"
  | .timestampCount => "datetime_parsing"
  | .tooSmall => "greater_than"
  | .below => "greater_than_equal"
  | .refused => "value_error"

/-- A fault of a field, with the way to it. -/
structure Problem where
  location : List FieldStep
  fault : FieldFault
  deriving DecidableEq

/-- What an operation may fail with. -/
inductive Failure where
  | workflow (error : WorkflowError)
  | invalid (problems : List Problem)
  | fault (fault : Fault)
  deriving DecidableEq

namespace Failure

/-- The name of the kind of a failure. -/
def kind : Failure → String
  | .workflow error => error.kind
  | .invalid _ => "ValidationError"
  | .fault error => error.kind

/-- The text of a failure. -/
def text : Failure → String
  | .workflow error => error.message
  | .invalid problems => joined ", " (problems.map (·.fault.name))
  | .fault error => error.text

/-- A failure as it is shown. -/
def display : Failure → String
  | .workflow error => s!"{error.kind}({Text.quoted error.message})"
  | .invalid problems => "ValidationError" ++ displayGroup (problems.map fun problem => .text problem.fault.name)
  | .fault error => error.display

/-- A failure as it is recorded. -/
def report (failure : Failure) : Report :=
  ⟨failure.kind, failure.text, failure.display⟩

/-- The failure of a condition. -/
def evaluation (error : EvaluationError) : Failure :=
  .workflow (.evaluation error)

/-- The failure for a fault in a definition. -/
def definition (error : DefinitionError) : Failure :=
  .workflow (.definition error)

/-- The failure for a refused move. -/
def transition (error : TransitionError) : Failure :=
  .workflow (.transition error)

/-- The failure for a text that is not read as a timeout. -/
def timeout : TimeoutError → Failure
  | .malformed timeout => .fault (.timeoutForm timeout)
  | .integer error => .fault (.integer error)

/-- The failure for a value that is not written as JSON. -/
def unwritable (error : Json.WriteError) : Failure :=
  .fault (.unwritable error)

/-- The failure for a text that is not read as a whole number. -/
def integer (error : Number.IntegerError) : Failure :=
  .fault (.integer error)

end Failure

/-- The state that a value names. -/
def State.ofValue (value : Value) : Except Failure State :=
  match value.text?.bind State.ofName? with
  | some state => .ok state
  | none => .error (.fault (.notAState value))

end Workflow
