import Workflow.Instance.Filter
import Workflow.Instance.Record

/-!
# Statements to a database server

What a database server is asked for each operation of a store, and how its answers are read. Each
operation opens a connection of its own, which on the first time creates the table, and closes it
whatever becomes of the statement.
-/

namespace Workflow

open Time

/-- How a statement is put to the server. -/
inductive StatementMethod where
  /-- Only the status matters. -/
  | execute
  /-- The first row is fetched. -/
  | fetchRow
  /-- All rows are fetched. -/
  | fetch
  deriving DecidableEq

/-- The name of a method. -/
def StatementMethod.name : StatementMethod → String
  | .execute => "execute"
  | .fetchRow => "fetchrow"
  | .fetch => "fetch"

/-- A statement and the values of its places. -/
structure Statement where
  method : StatementMethod
  sql : String
  parameters : List Value
  deriving DecidableEq

/-- What happens on a connection. -/
inductive Exchange where
  | statement (statement : Statement)
  | close
  deriving DecidableEq

namespace Statement

/-- The columns of the table. -/
def columns : List String :=
  ["id", "definition_name", "definition_version", "definition", "state", "data",
    "current_step_id", "completed_steps", "failed_steps", "skipped_steps", "error_message",
    "created_at", "updated_at"]

/-- The columns that hold JSON. -/
def jsonColumns : List String :=
  ["definition", "data", "completed_steps", "failed_steps", "skipped_steps"]

/-- The statements that create the table. -/
def schema : List Statement :=
  [⟨.execute, "CREATE TABLE IF NOT EXISTS workflow_instances ( id TEXT PRIMARY KEY, " ++
      "definition_name TEXT NOT NULL, definition_version TEXT NOT NULL, " ++
      "definition JSONB NOT NULL, state TEXT NOT NULL, data JSONB NOT NULL, " ++
      "current_step_id TEXT, completed_steps JSONB NOT NULL, failed_steps JSONB NOT NULL, " ++
      "skipped_steps JSONB NOT NULL, error_message TEXT, created_at TIMESTAMPTZ NOT NULL, " ++
      "updated_at TIMESTAMPTZ NOT NULL )", []⟩,
    ⟨.execute, "CREATE INDEX IF NOT EXISTS idx_workflow_instances_state ON workflow_instances " ++
      "(state)", []⟩]

/-- The start of the statements that fetch instances. -/
def selection : String :=
  "SELECT " ++ joined ", " columns ++ " FROM workflow_instances"

/-- The mark of a place in a statement, counted from 1. -/
def place (index : Nat) : String :=
  s!"${index}"

/-- Saves an instance, over one with its id if there is one. -/
def save (inst : Instance) : Except Failure Statement := do
  let record := inst.toRecord
  let parameters ← columns.mapM fun column => do
    let value := (record.field? column).getD .null
    if jsonColumns.contains column then Value.text <$> (Json.write value).mapError .unwritable
    else if column = "created_at" then .ok (.timestamp inst.createdAt.assumeUniversal)
    else if column = "updated_at" then .ok (.timestamp inst.updatedAt.assumeUniversal)
    else .ok value
  let places := (List.range columns.length).map fun index => place (index + 1)
  let updates := (columns.filter (· ≠ "id")).map fun column => s!"{column} = EXCLUDED.{column}"
  .ok ⟨.execute, "INSERT INTO workflow_instances (" ++ joined ", " columns ++ ") VALUES (" ++
    joined ", " places ++ ") ON CONFLICT (id) DO UPDATE SET " ++ joined ", " updates, parameters⟩

/-- Fetches the row with an id. -/
def load (id : String) : Statement :=
  ⟨.fetchRow, selection ++ " WHERE id = $1", [.text id]⟩

/-- Deletes the row with an id. -/
def delete (id : String) : Statement :=
  ⟨.execute, "DELETE FROM workflow_instances WHERE id = $1", [.text id]⟩

/-- Fetches something if there is a row with an id. -/
def contains (id : String) : Statement :=
  ⟨.fetchRow, "SELECT 1 FROM workflow_instances WHERE id = $1", [.text id]⟩

/-- The criteria of a filter: the start of each, and its value. -/
def criteria (filter : Filter) : List (String × Value) :=
  (filter.state.map fun state => ("state = ", Value.text state.name)).toList ++
    (filter.definitionName.map fun name => ("definition_name = ", Value.text name)).toList ++
    (filter.createdBefore.map fun time =>
      ("created_at < ", Value.timestamp time.assumeUniversal)).toList ++
    (filter.createdAfter.map fun time =>
      ("created_at > ", Value.timestamp time.assumeUniversal)).toList

/-- Fetches the rows that a filter shows. -/
def list (filter : Filter) : Statement :=
  let criteria := criteria filter
  let count := criteria.length
  let clauses := criteria.zipIdx.map fun ((start, _), index) => start ++ place (index + 1)
  let condition := if clauses.isEmpty then "" else " WHERE " ++ joined " AND " clauses
  ⟨.fetch, selection ++ condition ++ " ORDER BY created_at LIMIT " ++ place (count + 1) ++
      " OFFSET " ++ place (count + 2),
    criteria.map (·.2) ++ [.int filter.limit, .int filter.offset]⟩

/-- What happens on a connection for one statement. -/
def exchange (statement : Statement) (schemaReady : Bool) : List Exchange :=
  (if schemaReady then [] else schema.map .statement) ++ [.statement statement, .close]

/-- The instance in a row, whose JSON columns may be texts or values. -/
def rowInstance (row : Dict) (now : Timestamp) : Except Failure Instance := do
  let decoded ← jsonColumns.foldlM
    (fun (record : Dict) column => do
      match ← Instance.recordField record column with
      | .text text =>
        let value ← (Json.read text).mapError fun error => Failure.fault (.document error)
        .ok (record.setField column value)
      | _ => .ok record)
    row
  Instance.ofRecord decoded now

/-- The instance in a fetched row, of which there may be none. -/
def loaded (id : String) (row : Value) (now : Timestamp) : Except Failure Instance :=
  match row with
  | .dict (entry :: entries) => rowInstance (entry :: entries) now
  | _ => .error (.workflow (.instanceNotFound id (some "postgres")))

/-- Whether the status of a deletion tells of a deleted row: its last word is not `0`. -/
def deleted (status : String) : Except Failure Bool :=
  let word := (Text.trimEnd status.toList).reverse.takeWhile (!Text.isBlank ·)
  if word.isEmpty then .error (.fault (.stated "IndexError" "list index out of range"))
  else .ok (word ≠ ['0'])

end Statement

end Workflow
