import Workflow.Action.Registry
import Workflow.Run.Attempt
import Workflow.Run.Session

/-!
# Rehearsals

A rehearsal tries out definitions without the outside world: in a session, with a server whose replies
are written down beforehand, with saves that are made to fail, and with actions that do what their
parameters say. It keeps what was called, saved and requested.
-/

namespace Workflow

/-- An action that does what its parameters say. -/
inductive Scripted where
  /-- Succeeds with the given output. -/
  | record
  /-- Fails a number of times and then succeeds. -/
  | flaky
  /-- Fails with the given message. -/
  | fail
  /-- Raises the given fault. -/
  | raise
  /-- Succeeds with what it was given. -/
  | echo
  /-- Succeeds with a list of one item. -/
  | scribble
  /-- Calls the engine on its own instance in chosen attempts. -/
  | interrupt
  /-- Succeeds if it is permitted. -/
  | guarded
  /-- Undoes a step, or fails to. -/
  | compensate
  /-- Is carried out without the usual steps around its work. -/
  | direct
  /-- Cannot be made. -/
  | unmakeable
  /-- Has no work of its own. -/
  | bare
  deriving DecidableEq

namespace Scripted

/-- All scripted actions. -/
def all : List Scripted :=
  [.record, .flaky, .fail, .raise, .echo, .scribble, .interrupt, .guarded, .compensate, .direct,
    .unmakeable, .bare]

/-- The name by which steps refer to a scripted action. -/
def key : Scripted → String
  | .record => "record"
  | .flaky => "flaky"
  | .fail => "fail"
  | .raise => "handle_raise"
  | .echo => "echo"
  | .scribble => "mutate"
  | .interrupt => "interrupt"
  | .guarded => "guard"
  | .compensate => "compensate"
  | .direct => "direct"
  | .unmakeable => "bad_factory"
  | .bare => "base"

/-- The name that the log gives to a scripted action. -/
def name : Scripted → String
  | .bare => "BaseAction"
  | action => String.join ((action.key.splitOn "_").map Text.capitalized)

/-- What a scripted action is said to do. -/
def description : String := "Base workflow action"

end Scripted

/-- An action that can be registered in a rehearsal. -/
inductive RehearsedAction where
  | builtin (action : Builtin)
  | scripted (action : Scripted)
  deriving DecidableEq

/-- The registry of the built-in and the scripted actions. -/
def rehearsalRegistry : Registry RehearsedAction :=
  ⟨(Registry.builtin.map .builtin).entries ++
    Scripted.all.map fun action => (action.key, .scripted action)⟩

/-- What a rehearsal is made of, and what it keeps. -/
structure Rehearsal where
  settings : ExecutorSettings
  registry : Registry RehearsedAction
  /-- The replies of the server, of which the last is repeated. -/
  replies : List Http.Outcome
  /-- The saves that fail, counted from 1. -/
  failingSaves : List (Nat × Failure)
  /-- How many saves there were. -/
  saveCount : Nat
  /-- What was saved, and what went wrong. -/
  saves : List (Instance × Option Failure)
  /-- Which actions were called for which steps. -/
  calls : List (Scripted × String)
  requests : List Http.Request
  /-- The step of each call so far. -/
  attempted : List String
  /-- The step of each question for permission so far. -/
  asked : List String

/-- Computations in a rehearsal. -/
abbrev RehearsalM := StateT Rehearsal (StateM Session)

namespace Rehearsal

/-- A rehearsal that has not begun. -/
def fresh (settings : ExecutorSettings) (replies : List Http.Outcome)
    (failingSaves : List (Nat × Failure)) : Rehearsal :=
  ⟨settings, rehearsalRegistry, replies, failingSaves, 0, [], [], [], [], []⟩

/-- The rehearsal without what it kept for show. -/
def drained (rehearsal : Rehearsal) : Rehearsal :=
  { rehearsal with saves := [], calls := [], requests := [] }

/-- A server that replies nothing. -/
def emptyReply : Http.Outcome := .response ⟨200, [], ""⟩

/-- Takes a request, and replies as it is written down. -/
def server (request : Http.Request) : RehearsalM Http.Outcome :=
  modifyGet fun rehearsal =>
    let replies := match rehearsal.replies with
      | _ :: next :: rest => next :: rest
      | last => last
    (rehearsal.replies.head?.getD emptyReply,
      { rehearsal with replies, requests := rehearsal.requests ++ [request] })

/-- Saves an instance, unless this save is one that fails. -/
def save (inst : Instance) : RehearsalM (Except Failure Unit) := do
  let rehearsal : Rehearsal ← get
  let count := rehearsal.saveCount + 1
  let outcome ← match rehearsal.failingSaves.lookup count with
    | some failure => pure (.error failure)
    | none => modifyGetThe Session (Session.save inst)
  let failure := match outcome with
    | .error failure => some failure
    | .ok _ => none
  set { rehearsal with saveCount := count, saves := rehearsal.saves ++ [(inst, failure)] }
  pure outcome

/-- How often a rehearsed step may be tried again when its action asks for more attempts. -/
def patience : Nat := 1000

/-- What runs are executed with. -/
def runner : RehearsalM Runner := do
  let rehearsal : Rehearsal ← get
  let session ← getThe Session
  pure ⟨rehearsal.settings, rehearsal.registry.names, session.now, patience⟩

/-- Notes a call of an action for a step; tells how often the step was attempted. -/
def noteCall (action : Scripted) (step : String) : RehearsalM Nat :=
  modifyGet fun rehearsal =>
    let attempted := rehearsal.attempted ++ [step]
    (attempted.count step,
      { rehearsal with attempted, calls := rehearsal.calls ++ [(action, step)] })

/-- Notes a question for permission for a step; tells how many there were before. -/
def noteQuestion (step : String) : RehearsalM Nat :=
  modifyGet fun rehearsal =>
    (rehearsal.asked.count step, { rehearsal with asked := rehearsal.asked ++ [step] })

end Rehearsal

end Workflow
