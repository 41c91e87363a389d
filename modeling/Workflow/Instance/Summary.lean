import Workflow.Instance.Basic
import Workflow.Schema

/-!
# Summaries

A summary is the short view of an instance that listings show.
-/

namespace Workflow

open Time Number

/-- The short view of an instance. -/
structure Summary where
  id : String
  definitionName : String
  definitionVersion : String
  state : State
  currentStep : Option String
  completed : List String
  progress : Binary64
  errorMessage : Option String
  createdAt : Timestamp
  updatedAt : Timestamp
  deriving DecidableEq

/-- The summary of an instance, in which all names are texts. -/
def Instance.summary (inst : Instance) : Checked Summary :=
  (fun currentStep completed errorMessage =>
      { id := inst.id, definitionName := inst.definition.name
        definitionVersion := inst.definition.version, state := inst.state, currentStep, completed
        progress := inst.progress, errorMessage, createdAt := inst.createdAt
        updatedAt := inst.updatedAt }) <$>
    (Reader.optional .text inst.currentStep).under (.name "current_step_id") <*>
    (Reader.list .text (.list inst.completed)).under (.name "completed_steps") <*>
    (Reader.optional .text inst.errorMessage).under (.name "error_message")

/-- The document of a summary. -/
def Summary.toDict (summary : Summary) : Dict :=
  Dict.ofFields
    [("id", .text summary.id), ("definition_name", .text summary.definitionName),
      ("definition_version", .text summary.definitionVersion),
      ("state", .text summary.state.name), ("current_step_id", .ofText? summary.currentStep),
      ("completed_steps", .ofTexts summary.completed), ("progress", .float summary.progress),
      ("error_message", .ofText? summary.errorMessage),
      ("created_at", .timestamp summary.createdAt), ("updated_at", .timestamp summary.updatedAt)]

end Workflow
