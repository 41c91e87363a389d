import Workflow.Definition.File
import Workflow.Settings

/-!
# Loading settings

Settings are read from a YAML file, and are the default ones where there is no file. A database that the
surroundings name wins over that of the file. Texts that are empty count as not given.
-/

namespace Workflow

/-- A text that is given and not empty. -/
def given? : Option String → Option String
  | some "" => none
  | other => other

/-- The path of the settings: the given one, or else the configured one, or else the usual one. -/
def settingsPath (given configured : Option String) (usual : String) : String :=
  (given? given).getD (configured.getD usual)

namespace Settings

/-- The name of the kind of a value in full, with what it belongs to. -/
def fullKindName : Value → String
  | .date _ => "datetime.date"
  | .timestamp _ => "datetime.datetime"
  | other => other.kindName

/-- Reads settings from the text of a file. -/
def ofText (text : String) : Except Failure Settings := do
  let value ← (Yaml.read (String.ofList (plainBreaks text.toList))).mapError fun error =>
    Failure.fault error.fault
  if !value.truthy then .ok default
  else match value.opened with
    | .dict entries =>
      if entries.all fun (key, _) => key matches .text _ then (ofFields entries).toExcept
      else .error (.fault (.stated "TypeError" "keywords must be strings"))
    | other => .error (.fault (.notAMapping (fullKindName other)))

/-- The settings of a file, if there is one, with the first database that the surroundings name. -/
def load (file : Option String) (databases : List (Option String)) : Except Failure Settings := do
  let settings ← match file with
    | some text => ofText text
    | none => .ok default
  match databases.findSome? given? with
  | some url => .ok { settings with databaseUrl := some url }
  | none => .ok settings

/-- The document of settings. -/
def toDict (settings : Settings) : Dict :=
  Dict.ofFields
    [("storage", .ofFields [("database_url", .ofText? settings.databaseUrl)]),
      ("executor", .dict settings.executor.toDict),
      ("events", .ofFields [("enabled", .bool settings.eventsEnabled)]),
      ("database_url", .ofText? settings.databaseUrl)]

end Settings

end Workflow
