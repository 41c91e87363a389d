import Workflow.Instance.Filter
import Workflow.Instance.Record

/-!
# The store as a table

A table with one row of texts for each instance, in the order in which the rows were added. Nested
values are kept as JSON text, and times as text in universal time, by which rows are found and put in
order.
-/

namespace Workflow

open Time

/-- A row of the table. -/
structure Row where
  id : String
  definitionName : String
  definitionVersion : String
  definition : String
  state : String
  data : String
  currentStep : Option String
  completed : String
  failures : String
  skipped : String
  errorMessage : Option String
  createdAt : String
  updatedAt : String
  deriving DecidableEq

/-- The text of a time in universal time; a time without offset is taken to be universal time. -/
def universalText (time : Timestamp) : Except Failure String :=
  match time.toUniversal with
  | .ok universal => .ok universal.text
  | .error error => .error (.fault (.time error))

namespace Row

/-- The JSON text of a column. -/
def column (value : Value) : Except Failure String :=
  (Json.write value).mapError .unwritable

/-- The largest number that the table takes. -/
def largestNumber : Int := 0x7fffffffffffffff

/-- The text in which a column of texts keeps a value. Not-a-number is kept as nothing. -/
def textColumn : Value → Except Failure (Option String)
  | .null | .float (.nan _) => .ok none
  | .text text => .ok (some text)
  | .bool value => .ok (some (if value then "1" else "0"))
  | .int value =>
    if value ≤ largestNumber ∧ -largestNumber - 1 ≤ value then .ok (some (toString value))
    else .error (.fault .tooLargeForStore)
  | .float value => .ok (some (Value.float value).plain)
  | other =>
    .error <| .fault <| .stated "ProgrammingError" <|
      s!"Error binding parameter 11: type {Text.quoted other.kindName} is not supported"

/-- The row of an instance. -/
def ofInstance (inst : Instance) : Except Failure Row := do
  let definition ← column (.dict inst.definition.toDict)
  let data ← column (.dict inst.data)
  let completed ← column (.list inst.completed)
  let failures ← column (.list (inst.failures.map (·.toRecord)))
  let skipped ← column (.list inst.skipped)
  let createdAt ← universalText inst.createdAt
  let updatedAt ← universalText inst.updatedAt
  let errorMessage ← textColumn inst.errorMessage
  .ok
    { id := inst.id, definitionName := inst.definition.name
      definitionVersion := inst.definition.version, definition, state := inst.state.name, data
      currentStep := inst.currentStep.text?, completed, failures, skipped, errorMessage, createdAt
      updatedAt }

/-- The value that the JSON text of a column holds. -/
def columnValue (text : String) : Except Failure Value :=
  (Json.read text).mapError fun error => .fault (.document error)

/-- The instance that a row holds. -/
def toInstance (row : Row) (now : Timestamp) : Except Failure Instance := do
  let definition ← columnValue row.definition
  let data ← columnValue row.data
  let completed ← columnValue row.completed
  let failures ← columnValue row.failures
  let skipped ← columnValue row.skipped
  Instance.ofRecord
    (Dict.ofFields
      [("id", .text row.id), ("definition_name", .text row.definitionName),
        ("definition_version", .text row.definitionVersion), ("definition", definition),
        ("state", .text row.state), ("data", data), ("current_step_id", .ofText? row.currentStep),
        ("completed_steps", completed), ("failed_steps", failures), ("skipped_steps", skipped),
        ("error_message", .ofText? row.errorMessage), ("created_at", .text row.createdAt),
        ("updated_at", .text row.updatedAt)])
    now

end Row

/-- The rows in the order in which they were added. -/
structure Table where
  rows : List Row

namespace Table

/-- The table without rows. -/
def empty : Table := ⟨[]⟩

/-- The row with an id. -/
def find? (table : Table) (id : String) : Option Row :=
  table.rows.find? (·.id == id)

/-- Whether an id is taken. -/
def contains (table : Table) (id : String) : Bool :=
  (table.find? id).isSome

/-- Rows with one put in the place of that with its id, or at the end. -/
def put (row : Row) : List Row → List Row
  | [] => [row]
  | other :: rest => if other.id == row.id then row :: rest else other :: put row rest

/-- Saves an instance as the row of its id. -/
def save (table : Table) (inst : Instance) : Except Failure Table := do
  let row ← Row.ofInstance inst
  .ok ⟨put row table.rows⟩

/-- Loads the instance with an id. -/
def load (table : Table) (id : String) (now : Timestamp) : Except Failure Instance :=
  match table.find? id with
  | some row => row.toInstance now
  | none => .error (.workflow (.instanceNotFound id (some "sqlite")))

/-- Deletes the row with an id; tells whether there was one. -/
def delete (table : Table) (id : String) : Bool × Table :=
  (table.contains id, ⟨table.rows.filter (·.id != id)⟩)

/-- The rows that a filter chooses, given the texts of its times. -/
def chosen (table : Table) (filter : Filter) (before after : Option String) : List Row :=
  table.rows.filter fun row =>
    filter.state.all (row.state == ·.name) && filter.definitionName.all (row.definitionName == ·) &&
      before.all (row.createdAt < ·) && after.all (· < row.createdAt)

/-- Rows in the order of the texts of their creation; rows with one text keep their places. -/
def sortByCreation (rows : List Row) : List Row :=
  rows.mergeSort fun left right => !(right.createdAt < left.createdAt)

/-- The text in universal time of a time that may not be set. -/
def universalText? : Option Timestamp → Except Failure (Option String)
  | some time => some <$> universalText time
  | none => .ok none

/-- The instances that a filter shows, in the order of their creation. -/
def list (table : Table) (filter : Filter) (now : Timestamp) : Except Failure (List Instance) := do
  let before ← universalText? filter.createdBefore
  let after ← universalText? filter.createdAfter
  if Row.largestNumber < filter.limit ∨ Row.largestNumber < filter.offset then
    .error (.fault .tooLargeForStore)
  else
    (filter.window (sortByCreation (table.chosen filter before after))).mapM (·.toInstance now)

end Table

end Workflow
