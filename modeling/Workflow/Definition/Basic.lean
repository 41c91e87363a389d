import Workflow.Json.Writer
import Workflow.Value.Basic

/-!
# Workflow definitions

A definition is a graph of named steps. Steps stand in the order of their declaration, each under its
key; transitions lead from step to step and may carry a condition. The entry of a definition is the
first step that no transition leads to.
-/

namespace Workflow

/-- One step of a workflow. -/
structure Step where
  id : String
  action : Option String
  parameters : Dict
  timeout : Option String
  retryAttempts : Int
  /-- Conditions that have to hold on the data when the step starts. -/
  conditions : List String
  /-- The action that undoes the step when a later one fails. -/
  compensation : Option String
  deriving DecidableEq

/-- An edge from one step to another, taken when its condition holds. -/
structure Transition where
  source : String
  target : String
  condition : Option String
  metadata : Dict
  deriving DecidableEq

/-- The definition of a workflow. -/
structure Definition where
  name : String
  version : String
  /-- The steps by their keys, in the order of declaration. -/
  steps : List (String × Step)
  transitions : List Transition
  metadata : Dict
  deriving DecidableEq

namespace Step

/-- A step of its id alone. -/
def named (id : String) : Step :=
  ⟨id, none, [], none, 0, [], none⟩

/-- The document of a step; fields that hold nothing are left out. -/
def toDict (step : Step) : Dict :=
  Dict.ofFields <|
    [("id", .text step.id)] ++
    (step.action.map fun action => ("action", .text action)).toList ++
    (if step.parameters.isEmpty then [] else [("parameters", .dict step.parameters)]) ++
    (step.timeout.map fun timeout => ("timeout", .text timeout)).toList ++
    (if step.retryAttempts = 0 then [] else [("retry_attempts", .int step.retryAttempts)]) ++
    (if step.conditions.isEmpty then [] else [("conditions", .ofTexts step.conditions)]) ++
    (step.compensation.map fun action => ("compensation", .text action)).toList

end Step

namespace Transition

/-- The document of a transition; fields that hold nothing are left out. -/
def toDict (transition : Transition) : Dict :=
  Dict.ofFields <|
    [("from", .text transition.source), ("to", .text transition.target)] ++
    (transition.condition.map fun condition => ("condition", .text condition)).toList ++
    (if transition.metadata.isEmpty then [] else [("metadata", .dict transition.metadata)])

end Transition

namespace Definition

/-- The keys of the steps, in the order of declaration. -/
def stepIds (definition : Definition) : List String :=
  definition.steps.map (·.1)

/-- The step under a key. -/
def step? (definition : Definition) (key : String) : Option Step :=
  definition.steps.lookup key

/-- Whether there is a step under a key. -/
def hasStep (definition : Definition) (key : String) : Bool :=
  definition.stepIds.contains key

/-- The first declared step that no transition leads to, or else the first step. There is none only in a
definition without steps. -/
def entry? (definition : Definition) : Option Step :=
  let steps := definition.steps.map (·.2)
  let targets := definition.transitions.map (·.target)
  (steps.find? fun step => !targets.contains step.id).or steps.head?

/-- The transitions that leave a step, in the order of declaration. -/
def outgoing (definition : Definition) (source : String) : List Transition :=
  definition.transitions.filter (·.source == source)

/-- Whether no transition leaves a step. -/
def isLastStep (definition : Definition) (source : String) : Bool :=
  (definition.outgoing source).isEmpty

/-- The steps declared after the one under a key. -/
def stepsAfter (definition : Definition) (key : String) : List Step :=
  ((definition.steps.dropWhile (·.1 != key)).drop 1).map (·.2)

/-- The document of a definition, in the form that definitions are read from. -/
def toDict (definition : Definition) : Dict :=
  Dict.ofFields
    [("name", .text definition.name), ("version", .text definition.version),
      ("steps", .list (definition.steps.map fun (_, step) => .dict step.toDict)),
      ("transitions",
        .list (definition.transitions.map fun transition => .dict transition.toDict)),
      ("metadata", .dict definition.metadata)]

/-- Whether two definitions are equal: the same names and texts, and equal values. -/
def equals (left right : Definition) : Bool :=
  let sameStep (left right : String × Step) : Bool :=
    { left.2 with parameters := [] } == { right.2 with parameters := [] } && left.1 == right.1 &&
      (Value.dict left.2.parameters).equals (.dict right.2.parameters)
  let sameTransition (left right : Transition) : Bool :=
    { left with metadata := [] } == { right with metadata := [] } &&
      (Value.dict left.metadata).equals (.dict right.metadata)
  left.name == right.name && left.version == right.version &&
    left.steps.length == right.steps.length &&
    (left.steps.zip right.steps).all (fun (one, other) => sameStep one other) &&
    left.transitions.length == right.transitions.length &&
    (left.transitions.zip right.transitions).all (fun (one, other) => sameTransition one other) &&
    (Value.dict left.metadata).equals (.dict right.metadata)

/-- The JSON text of a definition. -/
def toJson (definition : Definition) : Except Json.WriteError String :=
  Json.write (.dict definition.toDict)

end Definition

end Workflow
