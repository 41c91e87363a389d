import Workflow.Definition.Parser
import Workflow.Instance.Record
import Workflow.Instance.Summary
import Workflow.Run.Executor

/-!
# The engine

The calls by which workflows are started, resumed, cancelled, paused and looked at. Each is a
procedure, so that calls of several callers can be interleaved at their requests.
-/

namespace Workflow

/-- The line for a warning of reading a definition, for each warning. -/
def logWarnings : List String → Proc Unit
  | [] => pure ()
  | warning :: rest => do
    Proc.log .warning warning
    logWarnings rest

/-- The data that a new instance is given; nothing stands for none. -/
def initialData (context : Value) : Except Failure Dict :=
  if context.truthy then ((Reader.dict context).under (.name "data")).toExcept else .ok []

namespace Runner

/-- Reads a definition, telling its warnings in the log. -/
def readDefinition (source : Definition.Source) : Proc (Except Failure Definition) := do
  logWarnings (Definition.warnings source)
  pure (Definition.parse source)

/-- Saves a fresh instance, tells that it started, and runs it. -/
def launch (runner : Runner) (id : String) (definition : Definition) (data : Dict) :
    Proc (Except Failure String) := do
  let inst := Instance.fresh id definition data runner.now
  match ← Proc.request (.save inst) with
  | .error failure => pure (.error failure)
  | .ok _ => do
    Proc.log .info s!"Starting workflow {definition.name} as {id}"
    Proc.emit (runner.event inst (.started data))
    let ended ← runner.run inst
    pure (ended.map fun _ => id)

/-- The id of a new instance: the given one, or a fresh one when none is given. -/
def newId (id : Option String) : Proc String :=
  match id with
  | some "" | none => Proc.request .freshId
  | some id => pure id

/-- Starts an instance of a definition under an id that is not taken, and runs it. -/
def start (runner : Runner) (id : Option String) (source : Definition.Source) (context : Value) :
    Proc (Except Failure String) := do
  match ← readDefinition source with
  | .error failure => pure (.error failure)
  | .ok definition => do
    let id ← newId id
    match ← Proc.request (.contains id) with
    | .error failure => pure (.error failure)
    | .ok true =>
      match ← Proc.request (.load id) with
      | .error failure => pure (.error failure)
      | .ok existing =>
        pure (.error (.transition ⟨.alreadyExists, existing.state, .pending, some id⟩))
    | .ok false =>
      match initialData context with
      | .error failure => pure (.error failure)
      | .ok data => runner.launch id definition data

/-- The step that an instance stands at, as messages give it. -/
def shownStep (inst : Instance) : String :=
  inst.currentStep.plain

/-- Runs a stored instance that has not ended. -/
def resume (runner : Runner) (id : String) : Proc (Except Failure Instance) := do
  match ← Proc.request (.load id) with
  | .error failure => pure (.error failure)
  | .ok inst =>
    if inst.state.isTerminal then
      pure (.error (.transition ⟨.notResumable, inst.state, .running, some id⟩))
    else do
      Proc.log .info s!"Resuming workflow {id} at {shownStep inst}"
      runner.run inst

/-- Saves a stored instance in a new state, and tells of it. -/
def moveStored (runner : Runner) (id : String) (target : State) (amend : Instance → Instance)
    (line : Instance → String) (body : Instance → Except Failure EventBody) :
    Proc (Except Failure Instance) := do
  match ← Proc.request (.load id) with
  | .error failure => pure (.error failure)
  | .ok stored =>
    match stored.transitionTo target runner.now with
    | .error error => pure (.error (.transition error))
    | .ok moved => do
      let inst := amend moved
      match ← Proc.request (.save inst) with
      | .error failure => pure (.error failure)
      | .ok _ => do
        Proc.log .info (line inst)
        match body inst with
        | .error failure => pure (.error failure)
        | .ok body => do
          Proc.emit ⟨id, inst.definition.name, runner.now, body⟩
          pure (.ok inst)

/-- Cancels a stored instance. An action that is under way is not interrupted. A reason that is no text
is noted down too, but cannot be told of. -/
def cancel (runner : Runner) (id : String) (reason : Value) : Proc (Except Failure Instance) :=
  runner.moveStored id .cancelled
    (fun inst => if reason.truthy then { inst with errorMessage := reason } else inst)
    (fun _ =>
      let shown := if reason.truthy then reason.plain else "no reason given"
      s!"Workflow {id} cancelled: {shown}")
    (fun _ => .cancelled <$> ((Reader.text reason).under (.name "reason")).toExcept)

/-- Pauses a stored instance that is running. -/
def pause (runner : Runner) (id : String) : Proc (Except Failure Instance) :=
  runner.moveStored id .paused (fun inst => inst)
    (fun inst => s!"Workflow {id} paused at {shownStep inst}")
    (fun inst => .ok (.paused inst.currentStep.text?))

end Runner

namespace Engine

/-- The stored instance with an id. -/
def instance? (id : String) : Proc (Except Failure Instance) :=
  Proc.request (.load id)

/-- The summary of the stored instance with an id. -/
def status (id : String) : Proc (Except Failure Summary) := do
  let loaded ← Proc.request (.load id)
  pure (loaded.bind (·.summary.toExcept))

/-- The summaries of the instances that a filter shows. -/
def summaries (filter : Filter) : Proc (Except Failure (List Summary)) := do
  let found ← Proc.request (.list filter)
  pure (found.bind fun instances => instances.mapM (·.summary.toExcept))

/-- Whether an id is taken. -/
def taken (id : String) : Proc (Except Failure Bool) :=
  Proc.request (.contains id)

/-- Deletes the stored instance with an id. -/
def delete (id : String) : Proc (Except Failure Unit) := do
  match ← Proc.request (.remove id) with
  | .error failure => pure (.error failure)
  | .ok true => pure (.ok ())
  | .ok false => pure (.error (.workflow (.instanceNotFound id none)))

end Engine

end Workflow
