import Workflow.Definition.Parser
import Workflow.Yaml.Reader

/-!
# Definitions in files

A file holds a definition as JSON, or as YAML if its name says so. An empty YAML file counts as an empty
mapping.
-/

namespace Workflow

/-- A text with all line breaks written in the same way. -/
def plainBreaks : List Char → List Char
  | '\r' :: '\n' :: rest => '\n' :: plainBreaks rest
  | '\r' :: rest => '\n' :: plainBreaks rest
  | c :: rest => c :: plainBreaks rest
  | [] => []

/-- A path without the parts that lead nowhere: empty ones, and those of a single dot. Two slashes at the
front are kept, one or more than two count as one. -/
def plainPath (path : String) : String :=
  let cs := path.toList
  let slashes := cs.takeWhile (· = '/')
  let parts := (cs.splitOn '/').filter fun part => part ≠ [] ∧ part ≠ ['.']
  let root := if slashes.length = 2 then ['/', '/'] else slashes.take 1
  let plain := root ++ List.intercalate ['/'] parts
  if plain.isEmpty then "." else String.ofList plain

/-- The last part of a path. -/
def fileName (path : List Char) : List Char :=
  (path.reverse.takeWhile (· ≠ '/')).reverse

/-- The ending of the name of a file, from its last dot on. A dot at the front or at the end of the name
begins none. -/
def suffix (path : String) : String :=
  let name := fileName path.toList
  let tail := (name.reverse.takeWhile (· ≠ '.')).reverse
  let stem := name.length - tail.length
  if tail.isEmpty ∨ stem ≤ 1 then "" else String.ofList ('.' :: tail)

/-- The endings of the names of YAML files, in lower case. -/
def yamlSuffixes : List String := [".yaml", ".yml"]

namespace Definition

/-- The error for a file that is no YAML document. -/
def invalidYaml (path : String) : DefinitionError :=
  ⟨.invalidYaml path, Dict.ofFields [("path", .text path)], some "YAMLError"⟩

/-- What the text of a file holds. -/
def fileSource (path text : String) : Except Failure Source :=
  let path := plainPath path
  let text := String.ofList (plainBreaks text.toList)
  if yamlSuffixes.contains (Text.lower (suffix path)) then
    match Yaml.read text with
    | .ok .null => .ok (.document (.dict []))
    | .ok value => .ok (.document value)
    | .error .malformed => .error (.definition (invalidYaml path))
    | .error error => .error (.fault error.fault)
  else .ok (.document (.text text))

end Definition

end Workflow
