import Workflow.Instance.Basic
import Workflow.Schema

/-!
# Filters

A filter chooses instances by state, definition and time of creation, and cuts a window out of those
chosen. Times without an offset are taken to be universal time.
-/

namespace Workflow

open Time

/-- Which instances a listing shows. Criteria that are not set choose all. -/
structure Filter where
  state : Option State
  definitionName : Option String
  createdBefore : Option Timestamp
  createdAfter : Option Timestamp
  limit : Int
  offset : Int
  deriving DecidableEq

namespace Filter

/-- The filter that shows the first hundred of all instances. -/
def all : Filter := ⟨none, none, none, none, 100, 0⟩

/-- Reads a filter from its fields. -/
def ofFields (fields : Dict) : Checked Filter :=
  Filter.mk <$> Reader.defaulted fields "state" (.optional .state) none <*>
    Reader.defaulted fields "definition_name" (.optional .text) none <*>
    Reader.defaulted fields "created_before" (.optional .timestamp) none <*>
    Reader.defaulted fields "created_after" (.optional .timestamp) none <*>
    Reader.defaulted fields "limit" (fun value => (Reader.integer value).ensure (1 ≤ ·) .below) 100 <*>
    Reader.defaulted fields "offset" (fun value => (Reader.integer value).ensure (0 ≤ ·) .below) 0

/-- Whether an instance is chosen. -/
def accepts (filter : Filter) (inst : Instance) : Bool :=
  filter.state.all (inst.state == ·) && filter.definitionName.all (inst.definition.name == ·) &&
    filter.createdBefore.all (inst.createdAt.instant < ·.instant) &&
    filter.createdAfter.all (·.instant < inst.createdAt.instant)

/-- The part of the chosen items that is shown. -/
def window {α : Type} (filter : Filter) (items : List α) : List α :=
  (items.drop filter.offset.toNat).take filter.limit.toNat

end Filter

end Workflow
