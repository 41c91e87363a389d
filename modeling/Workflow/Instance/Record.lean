import Workflow.Definition.Parser
import Workflow.Definition.Record
import Workflow.Instance.Basic
import Workflow.Value.Form

/-!
# Instances as records

The record of an instance is the mapping in which stores keep it. Reading a record parses its
definition anew; fields that hold nothing may be missing.
-/

namespace Workflow

open Time

namespace StepFailure

/-- The record of a failed step. -/
def toRecord (failure : StepFailure) : Value :=
  .ofFields [("step_id", .text failure.step), ("error", .text failure.error),
    ("failed_at", .text failure.failedAt.zuluText)]

/-- Reads a failed step; without a time of its own it failed now. -/
def ofRecord (now : Timestamp) : Reader StepFailure := Reader.record fun fields =>
  StepFailure.mk <$> Reader.required fields "step_id" .text <*>
    Reader.required fields "error" .text <*>
    Reader.defaulted fields "failed_at" .timestamp now

end StepFailure

namespace Instance

/-- The record of an instance. -/
def toRecord (inst : Instance) : Dict :=
  Dict.ofFields
    [("id", .text inst.id), ("definition_name", .text inst.definition.name),
      ("definition_version", .text inst.definition.version),
      ("definition", .dict inst.definition.toDict), ("state", .text inst.state.name),
      ("data", .dict inst.data), ("current_step_id", inst.currentStep),
      ("completed_steps", .list inst.completed),
      ("failed_steps", .list (inst.failures.map (·.toRecord))),
      ("skipped_steps", .list inst.skipped),
      ("error_message", inst.errorMessage), ("created_at", .text inst.createdAt.text),
      ("updated_at", .text inst.updatedAt.text)]

/-- Reads an instance from its fields, of which the definition was read before. -/
def ofFields (now : Timestamp) (definition : Checked Definition) (fields : Dict) :
    Checked Instance :=
  Instance.mk <$> Reader.required fields "id" .text <*> definition <*>
    Reader.defaulted fields "state" .state .pending <*>
    Reader.defaulted fields "data" .dict [] <*>
    Reader.defaulted fields "current_step_id" .optionalText .null <*>
    Reader.defaulted fields "completed_steps" (.list .textValue) [] <*>
    Reader.defaulted fields "failed_steps" (.list (StepFailure.ofRecord now)) [] <*>
    Reader.defaulted fields "skipped_steps" (.list .textValue) [] <*>
    Reader.defaulted fields "error_message" .optionalText .null <*>
    Reader.defaulted fields "created_at" .timestamp now <*>
    Reader.defaulted fields "updated_at" .timestamp now

/-- Reads an instance together with its definition, which has to be a record too. -/
def read (now : Timestamp) : Reader Instance := Reader.record fun fields =>
  ofFields now (Reader.required fields "definition" Definition.ofRecord) fields

/-- A field that a record has to have. -/
def recordField (record : Dict) (name : String) : Except Failure Value :=
  match record.field? name with
  | some value => .ok value
  | none => .error (.fault (.missingField name))

/-- A field of a record, or a value for nothing if it is missing or counts as false. -/
def fieldOr (record : Dict) (name : String) (nothing : Value) : Value :=
  match record.field? name with
  | some value => if value.truthy then value else nothing
  | none => nothing

/-- Reads an instance from its record. -/
def ofRecord (record : Dict) (now : Timestamp) : Except Failure Instance := do
  let id ← recordField record "id"
  let definition ← Definition.parse (.document (← recordField record "definition"))
  let state ← State.ofValue (← recordField record "state")
  let createdAt ← recordField record "created_at"
  let updatedAt ← recordField record "updated_at"
  let fields := Dict.ofFields
    [("id", id), ("state", .text state.name), ("data", fieldOr record "data" (.dict [])),
      ("current_step_id", (record.field? "current_step_id").getD .null),
      ("completed_steps", fieldOr record "completed_steps" (.list [])),
      ("failed_steps", fieldOr record "failed_steps" (.list [])),
      ("skipped_steps", fieldOr record "skipped_steps" (.list [])),
      ("error_message", (record.field? "error_message").getD .null),
      ("created_at", createdAt), ("updated_at", updatedAt)]
  (ofFields now (.valid definition) fields).toExcept

/-- Puts the entries of a value into the data of an instance, if the value is a mapping. -/
def mergeValue (inst : Instance) (data : Value) (now : Timestamp) : Except Failure Instance := do
  let changed ← (inst.change now fun inst => inst).mapError .transition
  let entries ← data.spread.mapError .fault
  .ok { changed with data := changed.data.overlay entries }

/-- Adds a step to those that failed, if its name and what went wrong are texts. -/
def noteFailure (inst : Instance) (step error : Value) (now : Timestamp) :
    Except Failure Instance := do
  let changed ← (inst.change now fun inst => inst).mapError .transition
  let fields := Value.ofFields [("step_id", step), ("error", error)]
  let failure ← (StepFailure.ofRecord now fields).toExcept
  .ok { changed with failures := changed.failures ++ [failure] }

end Instance

end Workflow
