import Workflow.Definition.Basic
import Workflow.Schema

/-!
# Definitions as records

Reading a definition from a record that names its fields as they are, with the steps under their keys
and without the checks and the other forms that definitions written by hand allow.
-/

namespace Workflow

namespace Step

/-- Reads a step from its fields. -/
def ofRecord : Reader Step := Reader.record fun fields =>
  Step.mk <$> Reader.required fields "id" .text <*>
    Reader.defaulted fields "action" (.optional .text) none <*>
    Reader.defaulted fields "parameters" .dict [] <*>
    Reader.defaulted fields "timeout" (.optional .text) none <*>
    Reader.defaulted fields "retry_attempts" .integer 0 <*>
    Reader.defaulted fields "conditions" (.list .text) [] <*>
    Reader.defaulted fields "compensation" (.optional .text) none

end Step

namespace Transition

/-- Reads a transition from its fields. -/
def ofRecord : Reader Transition := Reader.record fun fields =>
  Transition.mk <$> Reader.required fields "from_step" .text <*>
    Reader.required fields "to_step" .text <*>
    Reader.defaulted fields "condition" (.optional .text) none <*>
    Reader.defaulted fields "metadata" .dict []

end Transition

namespace Definition

/-- Reads a definition from its fields. -/
def ofRecord : Reader Definition := Reader.record fun fields =>
  Definition.mk <$> Reader.required fields "name" .text <*>
    Reader.defaulted fields "version" .text "1.0" <*>
    Reader.required fields "steps" (.fields Step.ofRecord) <*>
    Reader.defaulted fields "transitions" (.list Transition.ofRecord) [] <*>
    Reader.defaulted fields "metadata" .dict []

end Definition

end Workflow
