import Workflow.Action.Result
import Workflow.Definition.Parser

/-!
# Drafts of definitions

A draft is a definition that is being built step by step. Steps are linked in the order in which they
are added, and inherit the conditions of the blocks that they are added in. A step that is refused
leaves the draft as it was.
-/

namespace Workflow

/-- The most retries that a step may have when it is added to a draft. -/
def largestRetryAttempts : Int := 10

/-- A step of a draft. Its action and its compensation are checked when the definition is read. -/
structure DraftStep where
  id : String
  retryAttempts : Int
  action : Option Value
  parameters : Dict
  timeout : Option String
  conditions : List String
  compensation : Option Value
  deriving DecidableEq

/-- A transition of a draft. Its ends are checked when the definition is read. -/
structure DraftTransition where
  source : Value
  target : Value
  condition : Option String
  deriving DecidableEq

/-- A definition that is being built. -/
structure Draft where
  name : String
  version : Value
  description : Value
  metadata : Dict
  steps : List DraftStep
  transitions : List DraftTransition
  /-- The conditions of the blocks that steps are added in, the outermost first. -/
  conditions : List String
  deriving DecidableEq

/-- What is asked of a step that is to be added. Null stands for what is not asked. -/
structure StepRequest where
  id : Value
  action : Value
  parameters : Value
  timeout : Value
  retryAttempts : Value
  conditions : Value
  compensation : Value
  /-- Whether the step follows the one added before it. -/
  link : Bool
  deriving DecidableEq

namespace StepRequest

/-- A request for a step with an action and its parameters, and nothing else. -/
def ofAction (id action parameters : Value) : StepRequest :=
  ⟨id, action, parameters, .null, .int 0, .null, .null, true⟩

/-- Reads a request from its fields. -/
def ofFields (fields : Dict) : StepRequest :=
  let field (name : String) (default : Value) : Value := (fields.field? name).getD default
  ⟨field "id" .null, field "action" .null, field "parameters" .null, field "timeout" .null,
    field "retry_attempts" (.int 0), field "conditions" .null, field "compensation" .null,
    (field "link" (.bool true)).truthy⟩

end StepRequest

namespace DraftStep

/-- The document of a step, in the form that definitions are read from. -/
def toDict (step : DraftStep) : Dict :=
  Dict.ofFields <|
    [("id", .text step.id), ("retry_attempts", .int step.retryAttempts)] ++
    (step.action.map fun action => ("action", action)).toList ++
    (if step.parameters.isEmpty then [] else [("parameters", .dict step.parameters)]) ++
    (step.timeout.map fun timeout => ("timeout", .text timeout)).toList ++
    (if step.conditions.isEmpty then [] else [("conditions", .ofTexts step.conditions)]) ++
    (step.compensation.map fun action => ("compensation", action)).toList

end DraftStep

namespace DraftTransition

/-- The document of a transition, in the form that definitions are read from. -/
def toDict (transition : DraftTransition) : Dict :=
  Dict.ofFields <|
    [("from", transition.source), ("to", transition.target)] ++
    (transition.condition.map fun condition => ("condition", .text condition)).toList

end DraftTransition

/-- A value that is not null. -/
def Value.given? (value : Value) : Option Value :=
  if value.isNull then none else some value

namespace Draft

/-- Refuses a part of a draft. There is no message for a value that has no text. -/
def refuse {α : Type} (fault : DefinitionFault) : Except Failure α :=
  .error (if fault.shown.isShown then .definition (.alone fault) else .fault .unshown)

/-- A draft without steps, under a name. -/
def named (name : Value) : Except Failure Draft :=
  match name with
  | .text text =>
    if Text.isBlankText text then
      refuse (.invalidName name (some "Name must be a non-empty string"))
    else if !isIdentifier text then
      refuse (.invalidName name (some <| "Name must start with a letter and contain only " ++
        "letters, numbers, hyphens, and underscores"))
    else .ok ⟨text, .text "1.0", .null, [], [], [], []⟩
  | _ => refuse (.invalidName name (some "Name must be a non-empty string"))

/-- The document of a draft, in the form that definitions are read from. -/
def toDict (draft : Draft) : Dict :=
  let metadata :=
    if draft.description.truthy then draft.metadata.setField "description" draft.description
    else draft.metadata
  Dict.ofFields
    [("name", .text draft.name), ("version", draft.version),
      ("steps", .list (draft.steps.map fun step => .dict step.toDict)),
      ("transitions", .list (draft.transitions.map fun transition => .dict transition.toDict)),
      ("metadata", .dict metadata)]

/-- The definition that a draft describes. -/
def build (draft : Draft) : Except Failure Definition :=
  if draft.steps.isEmpty then refuse (.emptyWorkflow (.text draft.name))
  else Definition.parse (.document (.dict draft.toDict))

/-- Checks a condition: a text that is not blank. -/
def checkCondition : Value → Except Failure String
  | .text condition =>
    if Text.isBlankText condition then refuse (.invalidCondition (.text condition) "conditions")
    else .ok condition
  | other => refuse (.invalidCondition other "conditions")

/-- Checks the id of a step that is to be added. -/
def checkId (draft : Draft) : Value → Except Failure String
  | .text id =>
    if !isIdentifier id then refuse (.invalidStepId (.text id))
    else if draft.steps.any (·.id == id) then refuse (.duplicateStepId id)
    else .ok id
  | other => refuse (.invalidStepId other)

/-- Checks how often a step is retried. -/
def checkRetryAttempts (id : String) : Value → Except Failure Int
  | .int attempts =>
    if 0 ≤ attempts ∧ attempts ≤ largestRetryAttempts then .ok attempts
    else refuse (.invalidRetryAttempts (.int attempts) (some id))
  | other => refuse (.invalidRetryAttempts other (some id))

/-- Checks a timeout: a positive number of seconds, or a positive number and a unit of one character.
A number of seconds has to have a text. -/
def checkTimeout (id : String) (timeout : Value) : Except Failure String :=
  match timeout with
  | .int seconds =>
    if seconds ≤ 0 then refuse (.invalidTimeout timeout (some id))
    else if !timeout.isShown then .error (.fault .unshown)
    else .ok s!"{seconds}s"
  | .text text =>
    let digits := text.toList.dropLast
    if !digits.isEmpty && digits.all Text.isDigitLike then
      match Number.readInteger (String.ofList digits) with
      | .error error => .error (.integer error)
      | .ok number =>
        if 0 < number then .ok text else refuse (.invalidTimeout timeout (some id))
    else refuse (.invalidTimeout timeout (some id))
  | _ => refuse (.invalidTimeout timeout (some id))

/-- The items of a value that is taken apart: those of a list, the characters of a text, or the keys of
a mapping. Nothing has none. -/
def itemsOf (value : Value) : Except Failure (List Value) :=
  if !value.truthy then .ok []
  else match value with
    | .list items => .ok items
    | .text text => .ok (Value.characters text)
    | .dict entries => .ok (entries.map fun entry => .scalar entry.1)
    | other =>
      .error (.fault (.stated "TypeError" s!"Value after * must be an iterable, not {other.kindName}"))

/-- Checks a request, and gives the step that it asks for. -/
def stepOf (draft : Draft) (request : StepRequest) : Except Failure DraftStep := do
  let id ← draft.checkId request.id
  let retryAttempts ← checkRetryAttempts id request.retryAttempts
  let parameters ← (Dict.ofValue request.parameters).mapError .fault
  let timeout ← match request.timeout with
    | .null => .ok none
    | timeout => some <$> checkTimeout id timeout
  let own ← itemsOf request.conditions
  let conditions ← (draft.conditions.map Value.text ++ own).mapM checkCondition
  .ok ⟨id, retryAttempts, request.action.given?, parameters, timeout, conditions,
    request.compensation.given?⟩

/-- The transition to a new step from the one added before it, if there is one. -/
def linkTo (draft : Draft) (id : String) : List DraftTransition :=
  (draft.steps.getLast?.map fun previous => ⟨.text previous.id, .text id, none⟩).toList

/-- Adds a step. -/
def addStep (draft : Draft) (request : StepRequest) : Except Failure Draft := do
  let step ← draft.stepOf request
  let links := if request.link then draft.linkTo step.id else []
  .ok { draft with steps := draft.steps ++ [step], transitions := draft.transitions ++ links }

/-- The id of a number. -/
def numberedId (number : Nat) : String :=
  s!"step_{number}"

/-- The first numbered id that no step has, from the number of the next step on. -/
def freshId (draft : Draft) : String :=
  let count := draft.steps.length
  let numbers := (List.range (count + 1)).map (count + 1 + ·)
  let free := numbers.find? fun number => !draft.steps.any (·.id == numberedId number)
  numberedId (free.getD (count + 1))

/-- Adds a step that is given a fresh id if none is asked for. -/
def append (draft : Draft) (request : StepRequest) : Except Failure Draft :=
  if request.id.truthy then draft.addStep request
  else draft.addStep { request with id := .text draft.freshId }

/-- Adds a transition. -/
def addTransition (draft : Draft) (source target condition : Value) : Except Failure Draft := do
  let condition ← match condition with
    | .null => .ok none
    | condition => some <$> checkCondition condition
  .ok { draft with transitions := draft.transitions ++ [⟨source, target, condition⟩] }

/-- Puts entries into the metadata, as far as there are any. -/
def addMetadata (draft : Draft) (metadata : Value) : Except Failure Unit × Draft :=
  let (entries, fault) := metadata.offered
  (match fault with
    | some fault => .error (.fault fault)
    | none => .ok (),
    { draft with metadata := draft.metadata.overlay entries })

end Draft

end Workflow
