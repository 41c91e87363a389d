import Workflow.Proofs.Records
import Workflow.Run.Engine

/-!
# Interleaved calls

Several calls of engines share one store.  Each of them goes on request by request, and what the
others do in between is up to them: a call may begin at any time, also while another one performs
an action, and the next request to be answered may be that of any call.  A schedule says, moment
by moment, which call begins or goes on, and what it is answered where the store is not asked.
All interleavings are the schedules, and a schedule determines everything else.
-/

namespace Workflow

/-- A call of an engine by which an instance comes to be, goes on, is moved or is dropped. -/
inductive EngineCall where
  | start (id : Option String) (source : Definition.Source) (context : Value)
  | resume (id : String)
  | cancel (id : String) (reason : Value)
  | pause (id : String)
  | delete (id : String)

/-- What a call does; of its value only whether it succeeds. -/
def EngineCall.proc (runner : Runner) (call : EngineCall) : Proc (Except Failure Unit) :=
  let succeeds {α : Type} (result : Except Failure α) : Except Failure Unit :=
    result.map fun _ => ()
  match call with
  | .start id source context => succeeds <$> runner.start id source context
  | .resume id => succeeds <$> runner.resume id
  | .cancel id reason => succeeds <$> runner.cancel id reason
  | .pause id => succeeds <$> runner.pause id
  | .delete id => Engine.delete id

/-- The id of a new instance is asked for, or is at hand. -/
theorem newId_eq (named : Option String) :
    Runner.newId named = Proc.request .freshId ∨ ∃ id, Runner.newId named = .done id := by
  unfold Runner.newId
  split
  · exact .inl rfl
  · exact .inl rfl
  · exact .inr ⟨_, rfl⟩

/-- What holds of a procedure holds with all warnings before it when it holds with each. -/
theorem logWarnings_bind {α : Type} (holds : Proc α → Prop) {warnings : List String}
    {next : Unit → Proc α}
    (log : ∀ warning {onward : Unit → Proc α},
      holds (onward ()) → holds ((Proc.log .warning warning).bind onward))
    (rest : holds (next ())) : holds ((logWarnings warnings).bind next) := by
  induction warnings with
  | nil => exact rest
  | cons warning _ ih =>
      simp only [logWarnings, Proc.then_bind]
      exact log warning ih

/-- What happens at one moment. -/
inductive Moment where
  /-- A call begins. -/
  | begins (runner : Runner) (call : EngineCall)
  /-- The next request of a call is answered; the store answers what it is asked. -/
  | turn (caller : Nat) (others : (request : Request) → request.Answer)

/-- Whether a request changes the record of an id. -/
def alters (id : String) : Request → Bool
  | .save inst => inst.id == id
  | .remove removed => removed == id
  | _ => false

/-- Whether a request and its answer tell a call for good what became of an id: the call changed the
record itself, or found it cancelled. -/
def settles (id : String) : (request : Request) → request.Answer → Bool
  | .load loaded, .ok stored => loaded == id && stored.state == .cancelled
  | request, _ => alters id request

/-- Any other request leaves the record of the id as it is. -/
theorem record?_reply {σ : Type} {records : Records σ} {id : String}
    {others : (request : Request) → request.Answer} {request : Request} {state : σ}
    (unaltered : alters id request = false) :
    records.record? (records.reply others request state).2 id = records.record? state id := by
  cases request with
  | save inst =>
      have other : ¬ inst.id = id := by simpa [alters] using unaltered
      exact (records.record?_save state inst id).trans (if_neg other)
  | remove removed =>
      have other : ¬ removed = id := by simpa [alters] using unaltered
      exact (records.record?_remove state removed id).trans (if_neg other)
  | _ => rfl

/-- A call under way. -/
structure Call where
  /-- What is left to do. -/
  rest : Proc (Except Failure Unit)
  /-- Whether another call changed the record of the instance in question since this call began,
  and this one has neither changed it since nor found it cancelled. -/
  overtaken : Bool

/-- Whether a call has ended, and ended well. -/
def Call.succeeded (call : Call) : Bool :=
  match call.rest with
  | .done (.ok ()) => true
  | _ => false

/-- A store and the calls that were made, in the order in which they began. -/
structure Situation (σ : Type) where
  state : σ
  calls : List Call

namespace Situation

variable {σ : Type} (records : Records σ) (id : String)

/-- The situation after a moment, with an eye on the record of an id. -/
def after (situation : Situation σ) : Moment → Situation σ
  | .begins runner call =>
    { situation with calls := situation.calls ++ [⟨call.proc runner, false⟩] }
  | .turn caller others =>
    match situation.calls[caller]? with
    | some ⟨.ask request next, overtaken⟩ =>
      let (answer, state) := records.reply others request situation.state
      let bystanders := situation.calls.map fun call =>
        { call with overtaken := call.overtaken || alters id request }
      { state, calls := bystanders.set caller
          ⟨next answer, overtaken && !settles id request answer⟩ }
    | _ => situation

/-- The situation after a schedule. -/
def play (situation : Situation σ) (schedule : List Moment) : Situation σ :=
  schedule.foldl (after records id) situation

/-- The save that is made at a moment, and the call that makes it. -/
def saving? (situation : Situation σ) : Moment → Option (Call × Instance)
  | .begins _ _ => none
  | .turn caller _ =>
    match situation.calls[caller]? with
    | some ⟨.ask (.save inst) next, overtaken⟩ => some (⟨.ask (.save inst) next, overtaken⟩, inst)
    | _ => none

/-- What holds of the store, and what holds of each call, as long as only certain calls begin. -/
structure Invariant (begun : EngineCall → Prop) (fits : σ → Prop) (sound : σ → Call → Prop) :
    Prop where
  begins : ∀ {state} runner call, begun call → fits state → sound state ⟨call.proc runner, false⟩
  turns : ∀ {state request next overtaken} others, fits state →
    sound state ⟨.ask request next, overtaken⟩ →
    fits (records.reply others request state).2 ∧
      sound (records.reply others request state).2
        ⟨next (records.reply others request state).1,
          overtaken && !settles id request (records.reply others request state).1⟩
  bystands : ∀ {state request next overtaken call} others, fits state →
    sound state ⟨.ask request next, overtaken⟩ → sound state call →
    sound (records.reply others request state).2
      ⟨call.rest, call.overtaken || alters id request⟩

namespace Invariant

variable {records id} {begun : EngineCall → Prop} {fits : σ → Prop} {sound : σ → Call → Prop}

theorem after (invariant : Invariant records id begun fits sound) (moment : Moment)
    {situation : Situation σ} (admitted : ∀ runner call, moment = .begins runner call → begun call)
    (fitting : fits situation.state)
    (sounds : ∀ call ∈ situation.calls, sound situation.state call) :
    fits (situation.after records id moment).state ∧
      ∀ call ∈ (situation.after records id moment).calls,
        sound (situation.after records id moment).state call := by
  cases moment with
  | begins runner begins =>
      refine ⟨fitting, fun call member => ?_⟩
      cases List.mem_append.mp member with
      | inl earlier => exact sounds call earlier
      | inr fresh =>
          cases List.mem_singleton.mp fresh
          exact invariant.begins runner begins (admitted runner begins rfl) fitting
  | turn caller others =>
      unfold Situation.after
      simp only
      split
      · next request next overtaken turns =>
          have turned := sounds _ (List.mem_of_getElem? turns)
          have step := invariant.turns others fitting turned
          refine ⟨step.1, fun call member => ?_⟩
          cases List.mem_or_eq_of_mem_set member with
          | inr same =>
              subst same
              exact step.2
          | inl bystanding =>
              rcases List.mem_map.mp bystanding with ⟨before, inside, rfl⟩
              exact invariant.bystands others fitting turned (sounds before inside)
      · exact ⟨fitting, sounds⟩

/-- An invariant goes along with every schedule. -/
theorem play (invariant : Invariant records id begun fits sound) (situation : Situation σ)
    (schedule : List Moment)
    (admitted : ∀ runner call, .begins runner call ∈ schedule → begun call)
    (fitting : fits situation.state)
    (sounds : ∀ call ∈ situation.calls, sound situation.state call) :
    fits (situation.play records id schedule).state ∧
      ∀ call ∈ (situation.play records id schedule).calls,
        sound (situation.play records id schedule).state call := by
  induction schedule generalizing situation with
  | nil => exact ⟨fitting, sounds⟩
  | cons moment rest ih =>
      have step := invariant.after moment
        (fun runner call same => admitted runner call (by simp [same])) fitting sounds
      exact ih _ (fun runner call later => admitted runner call (List.mem_cons_of_mem _ later))
        step.1 step.2

end Invariant

end Situation

end Workflow
