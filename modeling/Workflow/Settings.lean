import Workflow.Schema

/-!
# Settings

How workflows are kept, executed and reported.
-/

namespace Workflow

open Number

/-- What becomes of a step whose precondition does not hold. -/
inductive PreconditionPolicy where
  /-- The step is skipped and the run goes on. -/
  | skip
  /-- The step fails. -/
  | fail
  deriving DecidableEq

namespace PreconditionPolicy

/-- The name of a policy. -/
def name : PreconditionPolicy → String
  | .skip => "skip"
  | .fail => "fail"

/-- Reads the name of a policy. -/
def ofValue : Reader PreconditionPolicy
  | .text "skip" => .valid .skip
  | .text "fail" => .valid .fail
  | _ => .fault .notLiteral

end PreconditionPolicy

/-- How runs are executed. -/
structure ExecutorSettings where
  policy : PreconditionPolicy
  /-- How many steps one run may execute. -/
  maxSteps : Int
  /-- Whether a run waits before it tries a step again. -/
  retryBackoff : Bool
  backoffBase : Binary64
  backoffJitter : Binary64
  deriving DecidableEq

/-- How workflows are kept, executed and reported. -/
structure Settings where
  databaseUrl : Option String
  executor : ExecutorSettings
  eventsEnabled : Bool
  deriving DecidableEq

/-- Whether a number is greater than nought. -/
def isPositive (value : Binary64) : Bool :=
  value.position?.any fun position => position.order (positionOfInt 0) == .gt

/-- Whether a number is nought or greater. -/
def isNotNegative (value : Binary64) : Bool :=
  value.position?.any fun position => position.order (positionOfInt 0) != .lt

namespace ExecutorSettings

/-- Skip steps whose preconditions fail, execute a thousand steps, and retry at once. -/
def default : ExecutorSettings :=
  ⟨.skip, 1000, false, .ofRatio false 3 2, .ofRatio false 1 2⟩

/-- Reads the settings of runs. -/
def ofFields : Reader ExecutorSettings := Reader.record fun fields =>
  ExecutorSettings.mk <$> Reader.defaulted fields "precondition_policy" PreconditionPolicy.ofValue
      default.policy <*>
    Reader.defaulted fields "max_steps"
      (fun value => (Reader.integer value).ensure (1 ≤ ·) .below) default.maxSteps <*>
    Reader.defaulted fields "retry_backoff" .bool default.retryBackoff <*>
    Reader.defaulted fields "backoff_base"
      (fun value => (Reader.float value).ensure isPositive .tooSmall) default.backoffBase <*>
    Reader.defaulted fields "backoff_jitter"
      (fun value => (Reader.float value).ensure isNotNegative .below) default.backoffJitter

/-- The document of the settings of runs. -/
def toDict (settings : ExecutorSettings) : Dict :=
  Dict.ofFields
    [("precondition_policy", .text settings.policy.name), ("max_steps", .int settings.maxSteps),
      ("retry_backoff", .bool settings.retryBackoff),
      ("backoff_base", .float settings.backoffBase),
      ("backoff_jitter", .float settings.backoffJitter)]

end ExecutorSettings

namespace Settings

/-- Keep instances in memory, and report events. -/
def default : Settings := ⟨none, .default, true⟩

/-- Reads where instances are kept. -/
def storageOfFields : Reader (Option String) := Reader.record fun fields =>
  Reader.defaulted fields "database_url" (.optional .text) none

/-- Reads whether events are reported. -/
def eventsOfFields : Reader Bool := Reader.record fun fields =>
  Reader.defaulted fields "enabled" .bool true

/-- Reads settings. -/
def ofFields (fields : Dict) : Checked Settings :=
  Settings.mk <$> Reader.defaulted fields "storage" storageOfFields none <*>
    Reader.defaulted fields "executor" ExecutorSettings.ofFields .default <*>
    Reader.defaulted fields "events" eventsOfFields true

end Settings

end Workflow
