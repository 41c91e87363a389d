import Workflow.Value.Basic

/-!
# Log records

A record is a message at a level. Levels are numbers, of which five have names; records below the
lowest named level are dropped.
-/

namespace Workflow

/-- The weight of a record. -/
structure Level where
  value : Int
  deriving DecidableEq

namespace Level

/-- Detail for those who look for faults. -/
def debug : Level := ⟨10⟩

/-- What happens in the normal course. -/
def info : Level := ⟨20⟩

/-- What may need attention. -/
def warning : Level := ⟨30⟩

/-- What went wrong. -/
def error : Level := ⟨40⟩

/-- What stops everything. -/
def critical : Level := ⟨50⟩

/-- The levels that have names. -/
def named : List (String × Level) :=
  [("DEBUG", debug), ("INFO", info), ("WARNING", warning), ("ERROR", error),
    ("CRITICAL", critical)]

/-- The level of a number; a truth value counts as nought or one. -/
def ofValue? : Value → Option Level
  | .int value => some ⟨value⟩
  | .bool value => some ⟨if value then 1 else 0⟩
  | _ => none

/-- The name of a level, or its number if it has none. -/
def name (level : Level) : String :=
  match named.find? (·.2 == level) with
  | some (name, _) => name
  | none => s!"Level {level.value}"

/-- Whether records of a level are kept. -/
def isKept (level : Level) : Bool :=
  debug.value ≤ level.value

end Level

/-- A message at a level. -/
structure LogRecord where
  level : Level
  message : String
  deriving DecidableEq

end Workflow
