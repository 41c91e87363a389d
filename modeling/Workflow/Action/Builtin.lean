import Workflow.Action.Delay
import Workflow.Action.Execution
import Workflow.Action.Http
import Workflow.Condition
import Workflow.Run.Proc

/-!
# Built-in actions

The actions that every registry knows at first: to write to the log, to wait, to evaluate a condition
and to send a request.
-/

namespace Workflow

open Time

/-- A built-in action. -/
inductive Builtin where
  /-- Writes a message to the log. -/
  | log
  /-- Waits. -/
  | delay
  /-- Evaluates a condition. -/
  | condition
  /-- Sends a request to a server. -/
  | http
  deriving DecidableEq

namespace Builtin

/-- The name by which steps refer to a built-in action. -/
def key : Builtin → String
  | .log => "log"
  | .delay => "delay"
  | .condition => "condition"
  | .http => "http"

/-- All built-in actions. -/
def all : List Builtin := [.log, .delay, .condition, .http]

/-- The built-in action to which steps refer by a name. -/
def ofKey? (key : String) : Option Builtin :=
  all.find? (·.key == key)

/-- The name that the log gives to a built-in action. -/
def name : Builtin → String
  | .log => "Log"
  | .delay => "Delay"
  | .condition => "Condition Check"
  | .http => "HTTP Request"

/-- What a built-in action does. -/
def description : Builtin → String
  | .log => "Writes a message to the workflow log"
  | .delay => "Adds a delay to workflow execution"
  | .condition => "Evaluates boolean conditions against workflow data"
  | .http => "Makes HTTP requests to external APIs"

/-- The levels that a message may have. -/
def levels : List (String × Level) :=
  Level.named.map fun (name, level) => (Text.lower name, level)

/-- Writes the rendered message to the log. -/
def writeLog (context : Context) (now : Timestamp) : Proc (Except Failure ActionResult) :=
  let config (name default : String) : String :=
    ((Dict.field? context.config name).getD (.text default)).plain
  let levelName := Text.lower (config "level" "info")
  match levels.lookup levelName with
  | none => pure (ActionResult.failed s!"Unsupported log level: {levelName}" [])
  | some level =>
    match Template.render (config "message" "Workflow step executed") (.dict context.data) with
    | .error failure => pure (.error failure)
    | .ok rendered => do
      Proc.log level s!"[workflow={context.workflowId} step={context.stepId}] {rendered}"
      pure <| .ok <| .succeed <| Dict.ofFields
        [("logged_message", .text rendered), ("logged_level", .text levelName),
          ("logged_at", .text now.text)]

/-- Waits for the given duration. -/
def wait (context : Context) (now : Timestamp) : Proc (Except Failure ActionResult) :=
  match Delay.read context.config with
  | .error message => pure (ActionResult.failed message [])
  | .ok duration =>
    match duration.total with
    | .error fault => pure (.error (.fault fault))
    | .ok total => do
      if Delay.isLonger total then
        match ← Proc.request (.sleep total) with
        | .error failure => pure (.error failure)
        | .ok _ => pure (.ok (duration.result now))
      else pure (.ok (duration.result now))

/-- Evaluates the condition; the result names the branch to take. -/
def branch (context : Context) : Except Failure ActionResult :=
  let config (name : String) : Value := (Dict.field? context.config name).getD .null
  let condition := config "condition"
  if !condition.truthy then ActionResult.failed "Condition is required" []
  else match Condition.evaluate condition (.dict context.data) with
    | .error (.workflow (.evaluation error)) =>
      ActionResult.failed s!"Condition evaluation failed: {error.message}"
        (Dict.ofFields [("condition", condition)])
    | .error failure => .error failure
    | .ok outcome =>
      .ok <| .succeed <| Dict.ofFields
        [("condition", condition), ("result", .bool outcome),
          ("next_action", config (if outcome then "on_true" else "on_false"))]

/-- Sends the request that the parameters call for. -/
def sendRequest (context : Context) : Proc (Except Failure ActionResult) :=
  match HttpAction.plan context with
  | .error failure => pure (.error failure)
  | .ok (.refuse message) => pure (ActionResult.failed message [])
  | .ok (.send sending) => do
    let outcome ← Proc.request (.http sending.request)
    pure (HttpAction.result sending outcome)

/-- The work of a built-in action. -/
def work (action : Builtin) (context : Context) (now : Timestamp) :
    Proc (Except Failure ActionResult) :=
  match action with
  | .log => writeLog context now
  | .delay => wait context now
  | .condition => pure (branch context)
  | .http => sendRequest context

/-- Carries out a built-in action. It has no prerequisites. -/
def perform (action : Builtin) (context : Context) (now : Timestamp) :
    Proc (Except Failure Reply) :=
  carryOut (fun record => Proc.request (.log record)) action.name context (pure (.ok true)) do
    let result ← action.work context now
    pure (Reply.result <$> result)

end Builtin

end Workflow
