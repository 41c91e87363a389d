import Workflow.Log
import Workflow.Schema

/-!
# Lifecycle events

What an execution tells the outside while it goes on: that a workflow started, completed, failed, was
cancelled or paused, and that a step completed or an attempt of it failed.
-/

namespace Workflow

open Time

/-- What an event tells. -/
inductive EventBody where
  /-- Nothing beyond the workflow it is about. -/
  | bare
  | started (context : Dict)
  | completed (result : Dict)
  | failed (error : String) (context : Dict)
  | cancelled (reason : String)
  | paused (step : Option String)
  | stepCompleted (step : String) (data : Dict)
  | stepFailed (step error : String) (attempt : Int)
  deriving DecidableEq

/-- An event about one instance. -/
structure Event where
  workflowId : String
  /-- The name of the definition. -/
  name : String
  occurredAt : Timestamp
  body : EventBody
  deriving DecidableEq

namespace EventBody

/-- The name of the kind of an event. -/
def kind : EventBody → String
  | .bare => "WorkflowEvent"
  | .started _ => "WorkflowStarted"
  | .completed _ => "WorkflowCompleted"
  | .failed _ _ => "WorkflowFailed"
  | .cancelled _ => "WorkflowCancelled"
  | .paused _ => "WorkflowPaused"
  | .stepCompleted _ _ => "StepCompleted"
  | .stepFailed _ _ _ => "StepFailed"

/-- The fields of an event beyond those of all events. -/
def fields : EventBody → List (String × Value)
  | .bare => []
  | .started context => [("context", .dict context)]
  | .completed result => [("result", .dict result)]
  | .failed error context => [("error", .text error), ("context", .dict context)]
  | .cancelled reason => [("reason", .text reason)]
  | .paused step => [("step_id", .ofText? step)]
  | .stepCompleted step data => [("step_id", .text step), ("data", .dict data)]
  | .stepFailed step error attempt =>
    [("step_id", .text step), ("error", .text error), ("attempt_number", .int attempt)]

/-- Reads what an event of a named kind tells, if there is such a kind. -/
def ofFields? (kind : String) (fields : Dict) : Option (Checked EventBody) :=
  let dict (name : String) : Checked Dict := Reader.defaulted fields name .dict []
  let text (name : String) : Checked String := Reader.required fields name .text
  match kind with
  | "WorkflowEvent" => some (.valid .bare)
  | "WorkflowStarted" => some (.started <$> dict "context")
  | "WorkflowCompleted" => some (.completed <$> dict "result")
  | "WorkflowFailed" => some (.failed <$> text "error" <*> dict "context")
  | "WorkflowCancelled" => some (.cancelled <$> Reader.defaulted fields "reason" .text "")
  | "WorkflowPaused" => some (.paused <$> Reader.defaulted fields "step_id" (.optional .text) none)
  | "StepCompleted" => some (.stepCompleted <$> text "step_id" <*> dict "data")
  | "StepFailed" =>
    some (.stepFailed <$> text "step_id" <*> text "error" <*>
      Reader.defaulted fields "attempt_number" .integer 1)
  | _ => none

end EventBody

namespace Event

/-- The document of an event. -/
def toDict (event : Event) : Dict :=
  Dict.ofFields <|
    [("type", .text event.body.kind), ("workflow_id", .text event.workflowId),
      ("name", .text event.name), ("occurred_at", .timestamp event.occurredAt)] ++ event.body.fields

/-- Reads an event of a named kind, if there is such a kind. -/
def ofFields? (kind : String) (fields : Dict) (now : Timestamp) : Option (Checked Event) :=
  (EventBody.ofFields? kind fields).map fun body =>
    Event.mk <$> Reader.required fields "workflow_id" .text <*>
      Reader.required fields "name" .text <*>
      Reader.defaulted fields "occurred_at" .timestamp now <*> body

/-- Whether an event is of a named kind; all events are of the bare one. -/
def isOfKind (event : Event) (kind : String) : Bool :=
  kind == EventBody.bare.kind || event.body.kind == kind

/-- The line that tells of an event in a log. -/
def logLine (event : Event) : String :=
  s!"{event.body.kind} workflow={event.workflowId} name={event.name}"

/-- The line that tells of an event that could not be delivered. -/
def undeliveredLine (event : Event) : String :=
  s!"Event sink failed to deliver {event.body.kind}"

end Event

/-- Where events go. -/
inductive Sink where
  /-- They are kept. -/
  | collecting
  /-- They are dropped. -/
  | discarding
  /-- They are told in the log, at a level. -/
  | logging (level : Level)
  /-- None can be delivered. -/
  | broken

namespace Sink

/-- The sink that logs at the level of a value; if the value is no level, nothing can be delivered. -/
def loggingAt (level : Value) : Sink :=
  match Level.ofValue? level with
  | some level => .logging level
  | none => .broken

/-- Whether events are delivered. -/
def delivers : Sink → Bool
  | .broken => false
  | _ => true

/-- The events that a sink keeps of one. -/
def kept : Sink → Event → List Event
  | .collecting, event => [event]
  | _, _ => []

/-- What a sink tells of an event in the log. -/
def told : Sink → Event → List LogRecord
  | .logging level, event => if level.isKept then [⟨level, event.logLine⟩] else []
  | _, _ => []

end Sink

end Workflow
