import Workflow.Instance.Record
import Workflow.Path
import Workflow.Schema

/-!
# Contexts of actions

What an action is given: the data of the instance, the rendered parameters of the step, and a snapshot
of the instance. A context never changes; changes make new ones.
-/

namespace Workflow

open Time

/-- What an action is given. -/
structure Context where
  workflowId : String
  stepId : String
  data : Dict
  config : Dict
  inst : Option Instance
  executedAt : Timestamp
  deriving DecidableEq

namespace Context

/-- Reads a context from its fields. -/
def ofFields (now : Timestamp) (fields : Dict) : Checked Context :=
  Context.mk <$>
    Reader.required fields "workflow_id" .text <*> Reader.required fields "step_id" .text <*>
    Reader.defaulted fields "data" .dict [] <*> Reader.defaulted fields "config" .dict [] <*>
    Reader.defaulted fields "instance" (.optional (Instance.read now)) none <*>
    Reader.defaulted fields "executed_at" .timestamp now

/-- What the data hold at a path. -/
def get? (context : Context) (path : String) : Except Number.IntegerError (Option Value) :=
  Path.get? (.dict context.data) path

/-- What the parameters hold at a path. -/
def getConfig? (context : Context) (path : String) : Except Number.IntegerError (Option Value) :=
  Path.get? (.dict context.config) path

/-- The context with entries put into the data. -/
def withData (context : Context) (data : Dict) : Context :=
  { context with data := context.data.overlay data }

/-- The context with a value put into the data at a path. -/
def withValue (context : Context) (path : String) (value : Value) : Context :=
  { context with data := Path.set context.data path value }

/-- The context with entries put into the parameters. -/
def withConfig (context : Context) (config : Dict) : Context :=
  { context with config := context.config.overlay config }

/-- The document of a context. -/
def toDict (context : Context) : Dict :=
  Dict.ofFields
    [("workflow_id", .text context.workflowId), ("step_id", .text context.stepId),
      ("data", .dict context.data), ("config", .dict context.config),
      ("executed_at", .text context.executedAt.text)]

end Context

end Workflow
