import Workflow.Path
import Workflow.Schema
import Workflow.Value.Form

/-!
# Results of actions

What an action returns: success with data, or failure with a message that is not blank.
-/

namespace Workflow

/-- The outcome of one action. -/
structure ActionResult where
  succeeded : Bool
  errorMessage : Option String
  data : Dict
  metadata : Dict
  deriving DecidableEq

namespace ActionResult

/-- Whether a message can stand for a failure. -/
def isMessage (message : Option String) : Bool :=
  message.any fun text => !Text.isBlankText text

/-- A result whose failure has a message. -/
def checked (result : ActionResult) : Checked ActionResult :=
  if result.succeeded || isMessage result.errorMessage then .valid result else .fault .refused

/-- Reads a result from its fields. -/
def ofFields (fields : Dict) : Checked ActionResult :=
  let result := ActionResult.mk <$> Reader.required fields "succeeded" .bool <*>
    Reader.defaulted fields "error_message" (.optional .text) none <*>
    Reader.defaulted fields "data" .dict [] <*> Reader.defaulted fields "metadata" .dict []
  match result with
  | .valid result => result.checked
  | .invalid problems => .invalid problems

/-- Success with the given data. -/
def succeed (data : Dict) : ActionResult :=
  ⟨true, none, data, []⟩

/-- Success with data and metadata of any form that can be a mapping. -/
def success (data metadata : Value) : Except Failure ActionResult := do
  let data ← (Dict.ofValue data).mapError .fault
  let metadata ← (Dict.ofValue metadata).mapError .fault
  (ofFields (Dict.ofFields
    [("succeeded", .bool true), ("data", .dict data), ("metadata", .dict metadata)])).toExcept

/-- Failure with a message, and metadata of any form that can be a mapping. -/
def failure (message metadata : Value) : Except Failure ActionResult := do
  let metadata ← (Dict.ofValue metadata).mapError .fault
  (ofFields (Dict.ofFields
    [("succeeded", .bool false), ("error_message", message), ("metadata", .dict metadata)])).toExcept

/-- Failure with a text and metadata. -/
def failed (message : String) (metadata : Dict) : Except Failure ActionResult :=
  failure (.text message) (.dict metadata)

/-- What the data of a result hold at a path. -/
def get? (result : ActionResult) (path : String) : Except Number.IntegerError (Option Value) :=
  Path.get? (.dict result.data) path

/-- The result with entries put into its metadata. -/
def withMetadata (result : ActionResult) (metadata : Dict) : ActionResult :=
  { result with metadata := result.metadata.overlay metadata }

/-- The result with entries put into its data. -/
def mergeData (result : ActionResult) (data : Dict) : ActionResult :=
  { result with data := result.data.overlay data }

/-- The document of a result. -/
def toDict (result : ActionResult) : Dict :=
  Dict.ofFields
    [("succeeded", .bool result.succeeded), ("error_message", .ofText? result.errorMessage),
      ("data", .dict result.data), ("metadata", .dict result.metadata)]

end ActionResult

/-- What an action gives back: a result, or a value that is none. -/
inductive Reply where
  | result (result : ActionResult)
  | other (value : Value)
  deriving DecidableEq

end Workflow
