import Workflow.Value.Display

/-!
# Failed steps

Why an attempt of a step failed, which attempt it was and how many more the step allows.
-/

namespace Workflow

/-- A failure as it is recorded: its kind, its text, and how it is shown. -/
structure Report where
  kind : String
  text : String
  shown : String
  deriving DecidableEq

/-- Why a step failed. -/
inductive StepCause where
  /-- The action, or making it, raised a failure. -/
  | raised (report : Report)
  /-- The action returned a failed result. -/
  | failedResult (message : String) (metadata : Dict)
  /-- The action returned a value of the given kind that is no result. -/
  | invalidResult (kind : String)
  /-- A precondition of the step does not hold. -/
  | precondition (condition : String)
  /-- The run has used up its steps. -/
  | stepLimit (limit : Int)
  /-- Anything else, told in words. -/
  | stated (message : String) (details : Dict)
  deriving DecidableEq

/-- The failure of one attempt of a step. -/
structure StepError where
  cause : StepCause
  step : String
  attempt : Int
  retryAttempts : Int
  action : Option String
  deriving DecidableEq

namespace StepError

/-- The failure of a step whose precondition does not hold. -/
def precondition (step condition : String) : StepError :=
  ⟨.precondition condition, step, 1, 0, none⟩

/-- The failure of a run that has used up its steps. -/
def stepLimit (step : String) (limit : Int) : StepError :=
  ⟨.stepLimit limit, step, 1, 0, none⟩

/-- The message for a failed step. -/
def message (error : StepError) : String :=
  match error.cause with
  | .raised report => s!"Step '{error.step}' failed: {report.text}"
  | .failedResult message _ => s!"Action execution failed in step '{error.step}': {message}"
  | .invalidResult kind =>
    s!"Action in step '{error.step}' returned {kind} instead of an ActionResult"
  | .precondition condition =>
    s!"Precondition '{condition}' of step '{error.step}' is not satisfied"
  | .stepLimit limit => s!"Workflow exceeded {limit} step executions at step '{error.step}'"
  | .stated message _ => message

/-- What is told about the cause of a failure. -/
def details (error : StepError) : Dict :=
  match error.cause with
  | .raised report =>
    Dict.ofFields [("error_type", .text "exception"), ("original_exception", .text report.kind),
      ("original_message", .text report.text)]
  | .failedResult message metadata =>
    Dict.ofFields [("error_type", .text "action_failed"), ("action_error", .text message),
      ("result_metadata", .dict metadata)]
  | .invalidResult _ => Dict.ofFields [("error_type", .text "invalid_result")]
  | .precondition condition =>
    Dict.ofFields [("error_type", .text "precondition_failed"), ("condition", .text condition)]
  | .stepLimit limit =>
    Dict.ofFields [("error_type", .text "step_limit_exceeded"), ("max_steps", .int limit)]
  | .stated _ details => details

/-- What is told about a failure. -/
def context (error : StepError) : Dict :=
  Dict.overlay
    (Dict.ofFields [("step_id", .text error.step), ("action", .ofText? error.action),
      ("attempt_number", .int error.attempt), ("retry_attempts", .int error.retryAttempts)])
    error.details

/-- Whether the step allows another attempt. -/
def canRetry (error : StepError) : Bool :=
  error.attempt ≤ error.retryAttempts

/-- The message for a user. -/
def userMessage (error : StepError) : String :=
  s!"The workflow step '{error.step}' failed to execute. This may be due to invalid input data, " ++
    "external service issues, or configuration problems."

/-- What to do about a failure. -/
def suggestions (error : StepError) : List String :=
  ["Check the step parameters and the workflow data",
    if error.canRetry then
      let remaining := error.retryAttempts - error.attempt + 1
      s!"This step will be retried automatically ({remaining} attempts remaining)"
    else if error.retryAttempts ≠ 0 then "All retry attempts have been exhausted"
    else "Consider setting 'retry_attempts' on the step if the failure is transient"]

end StepError

end Workflow
