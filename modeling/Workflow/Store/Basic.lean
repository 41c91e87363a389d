import Workflow.Store.Memory
import Workflow.Store.Table

/-!
# Stores

A store keeps instances by their ids, in memory or as the rows of a table.
-/

namespace Workflow

open Time

/-- A store of instances. -/
inductive Store where
  | inMemory (instances : MemoryStore)
  | inTable (rows : Table)

namespace Store

/-- Loads the instance with an id. -/
def load (store : Store) (id : String) (now : Timestamp) : Except Failure Instance :=
  match store with
  | .inMemory instances => instances.load id
  | .inTable rows => rows.load id now

/-- Saves an instance under its id. -/
def save (store : Store) (inst : Instance) : Except Failure Store :=
  match store with
  | .inMemory instances => .ok (.inMemory (instances.save inst))
  | .inTable rows => .inTable <$> rows.save inst

/-- Whether an id is taken. -/
def contains (store : Store) (id : String) : Bool :=
  match store with
  | .inMemory instances => instances.contains id
  | .inTable rows => rows.contains id

/-- Deletes the instance with an id; tells whether there was one. -/
def delete (store : Store) (id : String) : Bool × Store :=
  match store with
  | .inMemory instances =>
    let (found, rest) := instances.delete id
    (found, .inMemory rest)
  | .inTable rows =>
    let (found, rest) := rows.delete id
    (found, .inTable rest)

/-- The instances that a filter shows. -/
def list (store : Store) (filter : Filter) (now : Timestamp) : Except Failure (List Instance) :=
  match store with
  | .inMemory instances => instances.list filter
  | .inTable rows => rows.list filter now

end Store

end Workflow
