import Workflow.Run.Proc
import Workflow.Settings
import Workflow.Store.Basic

/-!
# Sessions

A session answers the requests of procedures one after the other from a store, a sink and a clock that
stands still. What it is asked to deliver, to log and to wait for is kept. Actions and servers are
outside of it.
-/

namespace Workflow

open Number Time

/-- Where the events of an engine go if nothing else is said. -/
def Settings.sink (settings : Settings) : Sink :=
  if settings.eventsEnabled then .logging .info else .discarding

/-- What requests are answered from, and what they left behind. -/
structure Session where
  store : Store
  sink : Sink
  now : Timestamp
  /-- Every draw gives this number. -/
  fraction : Binary64
  /-- How many ids were drawn. -/
  drawnIds : Nat
  events : List Event
  logs : List LogRecord
  sleeps : List Binary64

/-- Who answers what a session does not. -/
structure Outside (m : Type → Type) where
  make : Invocation → m (Except Failure Unit)
  permits : Invocation → m (Except Failure Bool)
  perform : Invocation → m (Except Failure Reply)
  server : Http.Request → m Http.Outcome

namespace Session

/-- A session that nothing was asked of. -/
def fresh (store : Store) (sink : Sink) (now : Timestamp) (fraction : Binary64) : Session :=
  ⟨store, sink, now, fraction, 0, [], [], []⟩

/-- The session without what earlier requests left behind. -/
def drained (session : Session) : Session :=
  { session with events := [], logs := [], sleeps := [] }

/-- Saves an instance. -/
def save (inst : Instance) (session : Session) : Except Failure Unit × Session :=
  match session.store.save inst with
  | .ok store => (.ok (), { session with store })
  | .error failure => (.error failure, session)

/-- Deletes an instance. -/
def remove (id : String) (session : Session) : Except Failure Bool × Session :=
  let (found, store) := session.store.delete id
  (.ok found, { session with store })

/-- Delivers an event, and tells whether that went well. -/
def deliver (event : Event) (session : Session) : Bool × Session :=
  (session.sink.delivers,
    { session with events := session.events ++ session.sink.kept event,
                   logs := session.logs ++ session.sink.told event })

/-- Draws an id. -/
def drawId (session : Session) : String × Session :=
  let drawn := session.drawnIds + 1
  (s!"uuid-{drawn}", { session with drawnIds := drawn })

/-- Keeps a log record. -/
def keepLog (record : LogRecord) (session : Session) : Session :=
  { session with logs := session.logs ++ [record] }

/-- Keeps the seconds of a wait. -/
def keepSleep (seconds : Binary64) (session : Session) : Session :=
  { session with sleeps := session.sleeps ++ [seconds] }

/-- Answers a request from the session, or from outside. -/
def serve {m : Type → Type} [Monad m] [MonadStateOf Session m] (outside : Outside m) :
    (request : Request) → m request.Answer
  | .contains id => do pure (.ok ((← get).store.contains id))
  | .load id => do
    let session : Session ← get
    pure (session.store.load id session.now)
  | .save inst => modifyGet (save inst)
  | .remove id => modifyGet (remove id)
  | .list filter => do
    let session : Session ← get
    pure (session.store.list filter session.now)
  | .make invocation => outside.make invocation
  | .permits invocation => outside.permits invocation
  | .perform invocation => outside.perform invocation
  | .sleep seconds => do
    modify (keepSleep seconds)
    pure (.ok ())
  | .draw => do
    let session : Session ← get
    pure session.fraction
  | .freshId => modifyGet drawId
  | .emit event => modifyGet (deliver event)
  | .log record => modify (keepLog record)
  | .http request => outside.server request

end Session

end Workflow
