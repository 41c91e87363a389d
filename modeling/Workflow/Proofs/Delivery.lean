import Workflow.Proofs.Interleaving
import Workflow.Proofs.Phase

/-!
# Delivery of events

An event is handed to a sink, which may take it or fail.  A procedure is heedless if it goes on in
the same way in both cases: when the sink fails, a line goes to the log, and then comes what would
have come anyway.  Runs and the calls of an engine are heedless, function by function, and what is
put together from heedless procedures is heedless.

So two sinks make no difference.  Each of them may remember what it was given, and fail whenever it
likes; apart from the log, a heedless procedure does the same with both of them.  That includes the
actions, which may make calls of engines in their turn.
-/

namespace Workflow

open Proc

/-! ## Heedless procedures -/

/-- A procedure that goes on in the same way whether an event is delivered or not, but for a line in
the log when it is not. -/
inductive Proc.Heedless {α : Type} : Proc α → Prop where
  | done (value : α) : Heedless (.done value)
  | ask {request : Request} {next : request.Answer → Proc α} :
      (∀ event, request ≠ .emit event) → (∀ answer, Heedless (next answer)) →
      Heedless (.ask request next)
  | emit {event : Event} {next : Bool → Proc α} (record : LogRecord) :
      next false = .ask (.log record) (fun _ => next true) → Heedless (next true) →
      Heedless (.ask (.emit event) next)

namespace Proc.Heedless

variable {α β : Type} {proc : Proc α} {next : α → Proc β}

theorem bind (heedless : proc.Heedless) (onward : ∀ value, (next value).Heedless) :
    (proc.bind next).Heedless := by
  induction heedless with
  | done value => exact onward value
  | ask silent _ ih => exact .ask silent ih
  | @emit event rest record undelivered _ ih =>
      refine .emit record ?_ ih
      simp only [undelivered]
      rfl

theorem map (heedless : proc.Heedless) (f : α → β) : (f <$> proc).Heedless :=
  heedless.bind fun value => .done (f value)

theorem request {request : Request} (silent : ∀ event, request ≠ .emit event) :
    (Proc.request request).Heedless :=
  .ask silent fun answer => .done answer

theorem log (level : Level) (message : String) : (Proc.log level message).Heedless :=
  .request fun _ => nofun

theorem deliver (event : Event) : (Proc.emit event).Heedless :=
  .emit ⟨.error, event.undeliveredLine⟩ rfl (.done ())

end Proc.Heedless

/-! ## Sinks and what is done with them -/

/-- A sink that remembers: whether it takes an event or fails, and what it remembers afterwards. -/
abbrev Listener (τ : Type) :=
  Event → τ → Bool × τ

/-- Answers where events go to a sink. Neither the sink nor the log is seen by anyone else. -/
def attended {σ τ : Type} (serve : (request : Request) → σ → request.Answer × σ)
    (listener : Listener τ) : (request : Request) → σ × τ → request.Answer × (σ × τ)
  | .emit event, (state, memory) =>
    let (delivered, after) := listener event memory
    (delivered, state, after)
  | .log _, surroundings => ((), surroundings)
  | request, (state, memory) =>
    let (answer, after) := serve request state
    (answer, after, memory)

/-- Whether a request is there to tell something: an event to the sink, or a line to the log. -/
def Request.isNotice : Request → Bool
  | .emit _ | .log _ => true
  | _ => false

/-- The event that is delivered by a request. -/
def Request.event? : Request → Option Event
  | .emit event => some event
  | _ => none

/-- What was done: everything that was asked and answered but for notices, the events that the sink
was given, the value in the end and the surroundings that are left. -/
structure Doings (α σ : Type) where
  exchanges : List Request.Answered
  events : List Event
  value : α
  state : σ

/-- What a procedure does where events go to a sink. -/
def Proc.doings {α σ τ : Type} (serve : (request : Request) → σ → request.Answer × σ)
    (listener : Listener τ) (memory : τ) (proc : Proc α) (state : σ) : Doings α σ :=
  let course := proc.course (attended serve listener) (state, memory)
  ⟨course.1.filter (!·.request.isNotice), course.1.filterMap (·.request.event?), course.2.1,
    course.2.2.1⟩

section Doings

variable {α σ τ υ : Type} {serve : (request : Request) → σ → request.Answer × σ}
variable (listener : Listener τ) (memory : τ) (state : σ)

/-- A line in the log is no part of what is done. -/
theorem doings_log (record : LogRecord) (next : Unit → Proc α) :
    (Proc.ask (.log record) next).doings serve listener memory state =
      (next ()).doings serve listener memory state :=
  rfl

theorem doings_emit (event : Event) (next : Bool → Proc α) :
    (Proc.ask (.emit event) next).doings serve listener memory state =
      let onward := (next (listener event memory).1).doings serve listener
        (listener event memory).2 state
      { onward with events := event :: onward.events } :=
  rfl

/-- The sink has no part in the answer to any other request. -/
theorem doings_ask {request : Request} (next : request.Answer → Proc α)
    (other : request.isNotice = false) :
    (Proc.ask request next).doings serve listener memory state =
      let onward := (next (serve request state).1).doings serve listener memory
        (serve request state).2
      { onward with exchanges := ⟨request, (serve request state).1⟩ :: onward.exchanges } := by
  cases request with
  | emit | log => cases other
  | _ => rfl

variable {listener memory state}

/-- A heedless procedure does the same whatever becomes of its events. -/
theorem Proc.Heedless.doings_eq {proc : Proc α} (heedless : proc.Heedless) (first : Listener τ)
    (second : Listener υ) (heard : τ) (noted : υ) (state : σ) :
    proc.doings serve first heard state = proc.doings serve second noted state := by
  induction heedless generalizing heard noted state with
  | done value => rfl
  | @ask request next silent _ ih =>
      cases notice : request.isNotice with
      | false => simp only [doings_ask _ _ _ _ notice, ih _ heard noted]
      | true =>
          cases request with
          | log record => exact ih () heard noted state
          | emit event => exact absurd rfl (silent event)
          | _ => cases notice
  | @emit event next record undelivered _ ih =>
      -- a failed delivery costs a line in the log before the same continuation
      have onward {ρ : Type} (listener : Listener ρ) (memory : ρ) (delivered : Bool) :
          (next delivered).doings serve listener memory state =
            (next true).doings serve listener memory state := by
        cases delivered with
        | true => rfl
        | false => rw [undelivered, doings_log]
      simp only [doings_emit, onward, ih _ (second event noted).2]

end Doings

/-! ## Runs are heedless -/

section Runs

variable {runner : Runner}

theorem checkInterrupted_heedless (id : String) : (checkInterrupted id).Heedless := by
  rw [checkInterrupted_eq]
  exact .ask (fun _ => nofun) fun _ => .done _

theorem attemptOnce_heedless (step : Step) (action : String) (context : Context) (attempt : Nat) :
    (attemptOnce step action context attempt).Heedless := by
  refine .bind (.request fun _ => nofun) fun permitted => ?_
  match permitted with
  | .error _ | .ok false => exact .done _
  | .ok true =>
      refine .bind (.request fun _ => nofun) fun answer => ?_
      cases answer <;> exact .done _

theorem wait_heedless (attempt : Nat) : (runner.wait attempt).Heedless := by
  simp only [Runner.wait]
  split
  · refine .bind (.request fun _ => nofun) fun fraction => ?_
    cases runner.backoff attempt fraction with
    | error _ => exact .done _
    | ok _ => exact .request fun _ => nofun
  · exact .done _

/-- The event that tells of a failed attempt comes before it is decided whether there is another
one, and has no part in the decision. -/
theorem attempts_heedless (inst : Instance) (step : Step) (action : String) (context : Context)
    (fuel attempt : Nat) : (runner.attempts inst step action context fuel attempt).Heedless := by
  rw [Runner.attempts.eq_def]
  refine .bind (attemptOnce_heedless ..) fun outcome => ?_
  cases outcome with
  | ok _ =>
      refine .bind (checkInterrupted_heedless _) fun interruption => ?_
      cases interruption <;> exact .done _
  | error error =>
      refine .bind (checkInterrupted_heedless _) fun interruption => ?_
      cases interruption with
      | stopped _ | raised _ => exact .done _
      | none =>
          refine .bind (.deliver _) fun _ => ?_
          cases fuel with
          | zero => exact .done _
          | succ fuel =>
              cases error.canRetry with
              | false => exact .done _
              | true =>
                  refine .bind (.log ..) fun _ => .bind (wait_heedless _) fun waited => ?_
                  cases waited with
                  | error _ => exact .done _
                  | ok _ => exact attempts_heedless inst step action context fuel (attempt + 1)

theorem complete_heedless (inst : Instance) (step : Step) (result : ActionResult) :
    (runner.complete inst step result).Heedless := by
  simp only [Runner.complete]
  split
  · exact .done _
  · exact .bind (.log ..) fun _ => .bind (.deliver _) fun _ => .done _

theorem act_heedless (inst : Instance) (step : Step) (action : String) (config : Dict) :
    (runner.act inst step action config).Heedless := by
  simp only [Runner.act]
  split
  · exact .done _
  · refine .bind (.request fun _ => nofun) fun made => ?_
    split
    · exact .done _
    · exact .done _
    · refine .bind (attempts_heedless ..) fun ended => ?_
      cases ended with
      | succeeded result => exact complete_heedless ..
      | _ => exact .done _

theorem executeStep_heedless (inst : Instance) (step : Step) :
    (runner.executeStep inst step).Heedless := by
  simp only [Runner.executeStep]
  cases Condition.firstFalse? .text (.dict inst.data) step.conditions with
  | error _ => exact .done _
  | ok declined =>
      cases declined with
      | some condition =>
          simp only [Runner.declineStep]
          cases runner.settings.policy with
          | fail => exact .done _
          | skip =>
              refine .bind (.log ..) fun _ => ?_
              split <;> exact .done _
      | none =>
          refine .bind (.log ..) fun _ => ?_
          cases renderParameters inst step with
          | error _ => exact .done _
          | ok config =>
              cases step.action with
              | none => exact complete_heedless ..
              | some action => exact act_heedless ..

theorem finalizeFailure_heedless (inst : Instance) (message : String) (context : Dict) :
    (runner.finalizeFailure inst message context).Heedless := by
  simp only [Runner.finalizeFailure]
  split
  · exact .done _
  · refine .bind (.request fun _ => nofun) fun kept => ?_
    cases kept with
    | error _ => exact .done _
    | ok _ => exact .bind (.deliver _) fun _ => .done _

theorem performCompensation_heedless (action : String) (step : Step) (context : Context) :
    (runner.performCompensation action step context).Heedless := by
  simp only [Runner.performCompensation]
  split
  · exact .done _
  · refine .bind (.request fun _ => nofun) fun made => ?_
    cases made with
    | error _ => exact .done _
    | ok _ => exact .request fun _ => nofun

theorem compensate_heedless (inst : Instance) (pending : List Step) :
    (runner.compensate inst pending).Heedless := by
  induction pending with
  | nil => exact .done _
  | cons step rest ih =>
      simp only [Runner.compensate]
      cases step.compensation with
      | none => exact ih
      | some action =>
          cases renderParameters inst step with
          | error _ => exact .done _
          | ok config =>
              refine .bind (performCompensation_heedless ..) fun undone => ?_
              cases undone with
              | error _ => exact .bind (.log ..) fun _ => ih
              | ok _ => exact .bind (.request fun _ => nofun) fun _ => ih

theorem failStep_heedless (inst : Instance) (step : Step) (error : StepError) :
    (runner.failStep inst step error).Heedless := by
  refine .bind (.log ..) fun _ => ?_
  cases inst.markFailed step.id error.message runner.now with
  | error _ => exact .done _
  | ok marked =>
      refine .bind (compensate_heedless ..) fun undone => ?_
      cases undone with
      | error _ => exact .done _
      | ok _ => exact finalizeFailure_heedless ..

theorem selectNext_heedless (inst : Instance) (key : String) : (selectNext inst key).Heedless := by
  cases selectNext_eq inst key with
  | inl silent =>
      rw [silent]
      exact .done _
  | inr told =>
      rcases told with ⟨line, told⟩
      rw [told]
      exact .bind (.log ..) fun _ => .done _

theorem completeRun_heedless (inst : Instance) : (runner.completeRun inst).Heedless := by
  simp only [Runner.completeRun]
  split
  · exact .done _
  · refine .bind (.request fun _ => nofun) fun kept => ?_
    cases kept with
    | error _ => exact .done _
    | ok _ => exact .bind (.log ..) fun _ => .bind (.deliver _) fun _ => .done _

theorem moveTo_heedless (inst : Instance) (key : String) : (runner.moveTo inst key).Heedless := by
  simp only [Runner.moveTo]
  split
  · exact .done _
  · exact .bind (.request fun _ => nofun) fun _ => .done _

theorem steps_heedless (remaining : Nat) (inst : Instance) (key : String) :
    (runner.steps remaining inst key).Heedless := by
  rw [Runner.steps.eq_def]
  refine .bind (checkInterrupted_heedless _) fun interruption => ?_
  cases interruption with
  | stopped _ | raised _ => exact .done _
  | none =>
      cases inst.definition.step? key with
      | none => exact .done _
      | some step =>
          cases remaining with
          | zero => exact .bind (.log ..) fun _ => .map (finalizeFailure_heedless ..) _
          | succ remaining =>
              refine .bind (moveTo_heedless ..) fun (inst, entered) => ?_
              cases entered with
              | error _ => exact .done _
              | ok _ =>
                  refine .bind (executeStep_heedless ..) fun ended => ?_
                  cases ended with
                  | failed error => exact .map (failStep_heedless ..) _
                  | stopped _ | raised _ => exact .done _
                  | processed inst =>
                      refine .bind (selectNext_heedless ..) fun chosen => ?_
                      match chosen with
                      | .error _ => exact .done _
                      | .ok none => exact completeRun_heedless _
                      | .ok (some next) =>
                          refine .bind (moveTo_heedless ..) fun (inst, left) => ?_
                          cases left with
                          | error _ => exact .done _
                          | ok _ => exact steps_heedless remaining inst next

theorem abort_heedless (inst : Instance) (message : String) (failure : Failure) :
    (runner.abort inst message failure).Heedless := by
  simp only [Runner.abort]
  split
  · exact .done _
  · refine .bind (finalizeFailure_heedless ..) fun ended => ?_
    cases ended <;> exact .done _

theorem conclude_heedless (id : String) (ended : StepsEnd) :
    (runner.conclude id ended).Heedless := by
  cases ended with
  | finished _ => exact .done _
  | stopped _ => exact .bind (.log ..) fun _ => .done _
  | raised inst failure =>
      rcases conclude_raised_eq runner id inst failure with ⟨line, told⟩
      rw [told]
      exact .bind (.log ..) fun _ => abort_heedless ..

theorem run_heedless (inst : Instance) : (runner.run inst).Heedless := by
  have drives (inst : Instance) : (runner.drive inst).Heedless := by
    simp only [Runner.drive]
    split
    · exact .done _
    · exact .bind (steps_heedless ..) fun _ => conclude_heedless ..
  simp only [Runner.run]
  split
  · exact .done _
  · split
    · exact drives inst
    · split
      · exact .done _
      · refine .bind (.request fun _ => nofun) fun kept => ?_
        cases kept with
        | error _ => exact .done _
        | ok _ => exact drives _

end Runs

/-! ## Calls of engines are heedless -/

section Calls

variable (runner : Runner)

theorem logWarnings_heedless (warnings : List String) : (logWarnings warnings).Heedless := by
  induction warnings with
  | nil => exact .done _
  | cons warning rest ih => exact .bind (.log ..) fun _ => ih

theorem launch_heedless (id : String) (definition : Definition) (data : Dict) :
    (runner.launch id definition data).Heedless := by
  refine .bind (.request fun _ => nofun) fun kept => ?_
  cases kept with
  | error _ => exact .done _
  | ok _ =>
      exact .bind (.log ..) fun _ => .bind (.deliver _) fun _ => .bind (run_heedless _) fun _ =>
        .done _

theorem newId_heedless (id : Option String) : (Runner.newId id).Heedless := by
  rcases newId_eq id with fresh | ⟨chosen, given⟩
  · rw [fresh]
    exact .request fun _ => nofun
  · rw [given]
    exact .done chosen

theorem start_heedless (id : Option String) (source : Definition.Source) (context : Value) :
    (runner.start id source context).Heedless := by
  refine .bind (.bind (logWarnings_heedless _) fun _ => .done _) fun read => ?_
  cases read with
  | error _ => exact .done _
  | ok definition =>
      refine .bind (newId_heedless id) fun id => .bind (.request fun _ => nofun) fun taken => ?_
      match taken with
      | .error _ => exact .done _
      | .ok true =>
          refine .bind (.request fun _ => nofun) fun loaded => ?_
          cases loaded <;> exact .done _
      | .ok false =>
          cases initialData context with
          | error _ => exact .done _
          | ok data => exact launch_heedless ..

theorem resume_heedless (id : String) : (runner.resume id).Heedless := by
  refine .bind (.request fun _ => nofun) fun loaded => ?_
  cases loaded with
  | error _ => exact .done _
  | ok inst =>
      dsimp only
      split
      · exact .done _
      · exact .bind (.log ..) fun _ => run_heedless _

theorem moveStored_heedless (id : String) (target : State) (amend : Instance → Instance)
    (line : Instance → String) (body : Instance → Except Failure EventBody) :
    (runner.moveStored id target amend line body).Heedless := by
  refine .bind (.request fun _ => nofun) fun loaded => ?_
  cases loaded with
  | error _ => exact .done _
  | ok stored =>
      dsimp only
      split
      · exact .done _
      · refine .bind (.request fun _ => nofun) fun kept => ?_
        cases kept with
        | error _ => exact .done _
        | ok _ =>
            refine .bind (.log ..) fun _ => ?_
            split
            · exact .done _
            · exact .bind (.deliver _) fun _ => .done _

theorem call_heedless (call : EngineCall) : (call.proc runner).Heedless := by
  cases call with
  | start id source context => exact (start_heedless ..).map _
  | resume id => exact (resume_heedless ..).map _
  | cancel id reason => exact (moveStored_heedless ..).map _
  | pause id => exact (moveStored_heedless ..).map _
  | delete id =>
      refine .bind (.request fun _ => nofun) fun removed => ?_
      match removed with
      | .error _ | .ok true | .ok false => exact .done _

end Calls

/-! ## Actions that call engines -/

/-- What an action does when it is performed: it may make calls of engines, one after the other, and
then it replies. -/
inductive Errand where
  | replies (reply : Except Failure Reply)
  | calls (runner : Runner) (call : EngineCall) (next : Except Failure Unit → Errand)

/-- The procedure of an errand, with each call carried out in a given way. -/
def Errand.proc (carry : Proc (Except Failure Unit) → Proc (Except Failure Unit)) :
    Errand → Proc (Except Failure Reply)
  | .replies reply => .done reply
  | .calls runner call next =>
    (carry (call.proc runner)).bind fun result => (next result).proc carry

/-- A procedure whose actions, after they were answered from outside, go on to do some work. -/
def Proc.working {α : Type}
    (work : Invocation → Except Failure Reply → Proc (Except Failure Reply)) : Proc α → Proc α
  | .done value => .done value
  | .ask (.perform invocation) next =>
    .ask (.perform invocation) fun answer =>
      (work invocation answer).bind fun reply => (next reply).working work
  | .ask request next => .ask request fun answer => (next answer).working work

/-- The work of actions that do errands.  The actions of the runs that an errand starts do errands
in their turn, down to a depth at which actions only reply. -/
def Errand.work (errands : Invocation → Except Failure Reply → Errand) :
    (depth : Nat) → Invocation → Except Failure Reply → Proc (Except Failure Reply)
  | 0, _, answer => .done answer
  | depth + 1, invocation, answer =>
    (errands invocation answer).proc (Proc.working (work errands depth))

section Errands

variable {α : Type} {errands : Invocation → Except Failure Reply → Errand}

theorem Proc.Heedless.working {proc : Proc α}
    {work : Invocation → Except Failure Reply → Proc (Except Failure Reply)}
    (works : ∀ invocation answer, (work invocation answer).Heedless) (heedless : proc.Heedless) :
    (proc.working work).Heedless := by
  induction heedless with
  | done value => exact .done value
  | @ask request next silent _ ih =>
      cases request with
      | perform invocation => exact .ask silent fun answer => .bind (works ..) fun reply => ih reply
      | emit event => exact absurd rfl (silent event)
      | _ => exact .ask silent ih
  | @emit event next record undelivered _ ih =>
      refine .emit record ?_ ih
      rw [undelivered]
      rfl

theorem Errand.proc_heedless {carry : Proc (Except Failure Unit) → Proc (Except Failure Unit)}
    (carries : ∀ {proc}, proc.Heedless → (carry proc).Heedless) (errand : Errand) :
    (errand.proc carry).Heedless := by
  induction errand with
  | replies reply => exact .done reply
  | calls runner call next ih => exact .bind (carries (call_heedless runner call)) ih

theorem Errand.work_heedless (depth : Nat) (invocation : Invocation)
    (answer : Except Failure Reply) : (Errand.work errands depth invocation answer).Heedless := by
  induction depth generalizing invocation answer with
  | zero => exact .done answer
  | succ depth ih => exact proc_heedless (.working ih) _

end Errands

/-! ## Two sinks -/

/-- Sinks have no influence.  Whatever two of them remember, and whichever events they fail to take,
a run of an instance asks for the same things in the same order, offers the same events, comes to
the same value and leaves the same surroundings; and so does a run that is started or resumed.  The
surroundings answer by any function at all, and actions may make calls of engines. -/
theorem doings_independent_of_sink {σ τ υ : Type}
    (serve : (request : Request) → σ → request.Answer × σ)
    (errands : Invocation → Except Failure Reply → Errand) (depth : Nat) (runner : Runner)
    (first : Listener τ) (second : Listener υ) (heard : τ) (noted : υ) (state : σ) :
    let doings {α ρ : Type} (listener : Listener ρ) (memory : ρ) (proc : Proc α) : Doings α σ :=
      (proc.working (Errand.work errands depth)).doings serve listener memory state
    (∀ inst, doings first heard (runner.run inst) = doings second noted (runner.run inst)) ∧
    (∀ id source context,
      doings first heard (runner.start id source context) =
        doings second noted (runner.start id source context)) ∧
    ∀ id, doings first heard (runner.resume id) = doings second noted (runner.resume id) := by
  intro doings
  have works : ∀ invocation answer, (Errand.work errands depth invocation answer).Heedless :=
    Errand.work_heedless depth
  have equal {α : Type} {proc : Proc α} (heedless : proc.Heedless) :
      doings first heard proc = doings second noted proc :=
    (heedless.working works).doings_eq first second heard noted state
  exact ⟨fun inst => equal (run_heedless inst),
    fun id source context => equal (start_heedless runner id source context),
    fun id => equal (resume_heedless runner id)⟩

end Workflow
