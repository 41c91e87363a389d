import Workflow.Definition.Draft
import Workflow.Definition.Duration
import Workflow.Text.Case

/-!
# Building definitions

The calls by which a definition is built, as data: steps, transitions, blocks of steps that share a
condition, and short forms for the built-in actions. Calls are carried out on a draft; what a block did
before one of its calls is refused stays.
-/

namespace Workflow

/-- A call that builds a definition. -/
inductive BuilderCall where
  | describe (description : Value)
  | setVersion (version : Value)
  | addMetadata (metadata : Value)
  | addStep (request : StepRequest)
  /-- Adds a step that is given a fresh id if none is asked for. -/
  | append (request : StepRequest)
  | addTransition (source target condition : Value)
  /-- Makes calls whose steps run only when a condition holds. -/
  | block (condition : Value) (calls : List BuilderCall)
  | log (message level id : Value)
  | delay (seconds minutes hours id : Value)
  /-- Adds a step that sends a request; the id, the options and the rest are those of a step. -/
  | http (url method data headers : Value) (request : StepRequest)
  | condition (expression onTrue onFalse id : Value)
  | build

namespace BuilderCall

/-- Reads a call from its fields, of which the calls of a block were read before. -/
def ofFields (fields : Dict) (calls : List BuilderCall) : BuilderCall :=
  let field (name : String) (default : Value) : Value := (fields.field? name).getD default
  let given (name : String) : Value := field name .null
  match (given "do").text? with
  | some "description" => .describe (given "description")
  | some "version" => .setVersion (given "version")
  | some "with_metadata" => .addMetadata (given "metadata")
  | some "add_step" => .addStep (.ofFields fields)
  | some "transition" => .addTransition (given "from_step") (given "to_step") (given "condition")
  | some "when" => .block (given "condition") calls
  | some "log" => .log (given "message") (field "level" (.text "info")) (given "id")
  | some "delay" =>
    .delay (field "seconds" (.int 0)) (field "minutes" (.int 0)) (field "hours" (.int 0)) (given "id")
  | some "http" =>
    .http (given "url") (field "method" (.text "GET")) (given "data") (given "headers")
      (.ofFields fields)
  | some "condition" =>
    .condition (given "expression") (given "on_true") (given "on_false") (given "id")
  | some "build" => .build
  | _ => .append (.ofFields fields)

mutual

/-- Reads a call. -/
def ofValue : Value → BuilderCall
  | .dict fields => ofFields fields (blockCalls fields)
  | _ => ofFields [] []

/-- Reads calls, one after the other. -/
def ofValues : List Value → List BuilderCall
  | [] => []
  | value :: rest => ofValue value :: ofValues rest

/-- Reads the calls that a block makes. -/
def blockCalls : List (Scalar × Value) → List BuilderCall
  | [] => []
  | (key, .list calls) :: rest => if key = .text "calls" then ofValues calls else blockCalls rest
  | _ :: rest => blockCalls rest

end

end BuilderCall

namespace Draft

/-- Adds a step that waits. -/
def addDelay (draft : Draft) (seconds minutes hours id : Value) : Except Failure Draft := do
  let total ← (Duration.total seconds minutes hours).mapError .fault
  if ← (Duration.isSpent total).mapError .fault then refuse (.delayNotPositive seconds minutes hours)
  else draft.append (.ofAction id (.text "delay") (.ofFields [("seconds", total)]))

/-- Adds a step that sends a request. -/
def addHttp (draft : Draft) (url method data headers : Value) (request : StepRequest) :
    Except Failure Draft :=
  match method with
  | .text method =>
    let parameters := [("url", url), ("method", .text (Text.upper method))] ++
      (if data.truthy then [("data", data)] else []) ++
      (if headers.truthy then [("headers", headers)] else [])
    draft.append { request with action := .text "http", parameters := .ofFields parameters }
  | other => .error (.fault (.lacksMember other.kindName "upper"))

/-- Adds a step that evaluates a condition. -/
def addCondition (draft : Draft) (expression onTrue onFalse id : Value) : Except Failure Draft := do
  let expression ← checkCondition expression
  let parameters := [("condition", Value.text expression)] ++
    (onTrue.given?.map fun value => ("on_true", value)).toList ++
    (onFalse.given?.map fun value => ("on_false", value)).toList
  draft.append (.ofAction id (.text "condition") (.ofFields parameters))

/-- Keeps a draft unless a change to it was refused. -/
def settle (draft : Draft) (changed : Except Failure Draft) :
    Except Failure (Option Definition) × Draft :=
  match changed with
  | .ok next => (.ok none, next)
  | .error failure => (.error failure, draft)

mutual

/-- Carries out a call; gives the definition if it was to be built. -/
def call (draft : Draft) : BuilderCall → Except Failure (Option Definition) × Draft
  | .describe description => (.ok none, { draft with description })
  | .setVersion version => (.ok none, { draft with version })
  | .addMetadata metadata =>
    let (outcome, next) := draft.addMetadata metadata
    (outcome.map fun _ => none, next)
  | .addStep request => draft.settle (draft.addStep request)
  | .append request => draft.settle (draft.append request)
  | .addTransition source target condition =>
    draft.settle (draft.addTransition source target condition)
  | .block condition calls =>
    match checkCondition condition with
    | .error failure => (.error failure, draft)
    | .ok condition =>
      let (outcome, inner) :=
        callAll { draft with conditions := draft.conditions ++ [condition] } calls
      (outcome.map fun _ => none, { inner with conditions := inner.conditions.dropLast })
  | .log message level id =>
    draft.settle <| draft.append <|
      .ofAction id (.text "log") (.ofFields [("message", message), ("level", level)])
  | .delay seconds minutes hours id => draft.settle (draft.addDelay seconds minutes hours id)
  | .http url method data headers request =>
    draft.settle (draft.addHttp url method data headers request)
  | .condition expression onTrue onFalse id =>
    draft.settle (draft.addCondition expression onTrue onFalse id)
  | .build => (draft.build.map some, draft)

/-- Carries out calls until one is refused. -/
def callAll (draft : Draft) : List BuilderCall → Except Failure Unit × Draft
  | [] => (.ok (), draft)
  | next :: rest =>
    match draft.call next with
    | (.error failure, draft) => (.error failure, draft)
    | (.ok _, draft) => draft.callAll rest

end

end Draft

end Workflow
