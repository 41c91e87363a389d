import Workflow.Proofs.Admission

/-!
# The history of a record under sequential control

Calls that start, resume, cancel or pause one instance are made one after the other, except that an
action may have its own instance cancelled or paused while it is performed.  Then nothing that was
recorded is lost: every record of the instance grew out of the one before it, and its state is the
same or moved as the table of moves allows.

A run and the calls that its actions make hold copies of the instance of their own.  The run never
writes its copy over a record that was moved meanwhile, since after every action it looks into the
store first.
-/

namespace Workflow

open Proc

/-! ## Successive records -/

/-- An instance comes after an earlier one in the history of a record. -/
structure Instance.Succeeds (inst earlier : Instance) : Prop extends inst.Accrues earlier where
  moves : inst.state = earlier.state ∨ earlier.state.canMoveTo inst.state = true

@[refl] theorem Instance.Succeeds.refl (inst : Instance) : inst.Succeeds inst :=
  ⟨.refl inst, .inl rfl⟩

/-- A record was left as it is, or it was cancelled or paused with all of its work. -/
def Halted (held after : Option Instance) : Prop :=
  after = held ∨ ∃ inst stored, held = some stored ∧ after = some inst ∧ inst.SameWork stored ∧
    inst.state.interrupts = true

theorem Halted.trans {held middle after : Option Instance} (first : Halted held middle)
    (second : Halted middle after) : Halted held after := by
  rcases second with rfl | ⟨inst, moved, same, rfl, work, interrupts⟩
  · exact first
  rcases first with rfl | ⟨_, stored, rfl, rfl, earlier, _⟩
  · exact .inr ⟨inst, moved, same, rfl, work, interrupts⟩
  · cases same
    exact .inr ⟨inst, stored, rfl, rfl, work.trans earlier, interrupts⟩

/-! ## Sequential control -/

/-- Whether a call starts, resumes, cancels or pauses the instance with an id. -/
def EngineCall.Concerns (id : String) : EngineCall → Prop
  | .start named _ _ => named = some id ∧ id ≠ ""
  | .resume target | .cancel target _ | .pause target => target = id
  | .delete _ => False

theorem EngineCall.Halts.concerns {id : String} {call : EngineCall} (halts : call.Halts id) :
    call.Concerns id := by
  cases call with
  | cancel | pause => exact halts
  | start | resume | delete => cases halts

/-- Whether a procedure has ended. -/
def Proc.isDone {α : Type} : Proc α → Bool
  | .done _ => true
  | .ask _ _ => false

/-- Whether a procedure waits for the action of a step. -/
def Proc.performs {α : Type} : Proc α → Bool
  | .ask (.perform invocation) _ => invocation.purpose ≠ .compensation
  | _ => false

/-- Calls on an instance are made one after the other, but while an action is performed others may
cancel or pause the instance; then the outer call goes on after the inner one has ended. -/
def Situation.Admits {σ : Type} (id : String) (situation : Situation σ) : Moment → Prop
  | .begins _ call =>
    call.Concerns id ∧ (∀ other ∈ situation.calls, other.rest.isDone = true) ∨
      call.Halts id ∧
        ∀ other ∈ situation.calls, other.rest.isDone = true ∨ other.rest.performs = true
  | .turn caller _ => ∀ inner ∈ situation.calls.drop (caller + 1), inner.rest.isDone = true

/-- Every moment of a schedule is admitted where it comes. -/
def Situation.Sequential {σ : Type} (records : Records σ) (id : String) (situation : Situation σ) :
    List Moment → Prop
  | [] => True
  | moment :: rest =>
    situation.Admits id moment ∧ (situation.after records id moment).Sequential records id rest

instance (id : String) : (call : EngineCall) → Decidable (call.Concerns id)
  | .start named _ _ => inferInstanceAs (Decidable (named = some id ∧ id ≠ ""))
  | .resume target | .cancel target _ | .pause target => inferInstanceAs (Decidable (target = id))
  | .delete _ => isFalse fun concerns => concerns

instance (id : String) : (call : EngineCall) → Decidable (call.Halts id)
  | .cancel target _ | .pause target => inferInstanceAs (Decidable (target = id))
  | .start .. | .resume _ | .delete _ => isFalse fun halts => halts

instance {σ : Type} (id : String) (situation : Situation σ) :
    (moment : Moment) → Decidable (situation.Admits id moment)
  | .begins _ call =>
    inferInstanceAs (Decidable (
      call.Concerns id ∧ (∀ other ∈ situation.calls, other.rest.isDone = true) ∨
        call.Halts id ∧
          ∀ other ∈ situation.calls, other.rest.isDone = true ∨ other.rest.performs = true))
  | .turn caller _ =>
    inferInstanceAs (Decidable (
      ∀ inner ∈ situation.calls.drop (caller + 1), inner.rest.isDone = true))

instance Situation.decidableSequential {σ : Type} (records : Records σ) (id : String) :
    (situation : Situation σ) → (schedule : List Moment) →
      Decidable (situation.Sequential records id schedule)
  | _, [] => isTrue trivial
  | situation, moment :: rest =>
    have := decidableSequential records id (situation.after records id moment) rest
    inferInstanceAs (Decidable (situation.Admits id moment ∧
      (situation.after records id moment).Sequential records id rest))

/-! ## Procedures that carry a record on -/

section Procedures

variable {σ α : Type} (records : Records σ) (id : String)

/-- Actions that leave the store alone, except that an instance may be cancelled or paused while
one is performed for a step. -/
def Records.halting : Actors σ where
  make _ state _ after := after = state
  permits _ state _ after := after = state
  perform invocation state _ after := after = state ∨
    invocation.purpose ≠ .compensation ∧
      Halted (records.record? state id) (records.record? after id)
  sleep _ state _ after := after = state

/-- A request changes the record of an id by saving what succeeds it, or not at all. -/
def Request.CarriesOn (request : Request) (state : σ) : Prop :=
  alters id request = true → ∃ inst, request = .save inst ∧
    ∀ stored, records.record? state id = some stored → inst.Succeeds stored

/-- A request changes the record of an id by cancelling or pausing it, or not at all. -/
def Request.MayHalt (request : Request) (state : σ) : Prop :=
  alters id request = true → ∃ inst stored, request = .save inst ∧
    records.record? state id = some stored ∧ inst.SameWork stored ∧
    inst.state.interrupts = true ∧ stored.state.canMoveTo inst.state = true

/-- All changes that a procedure makes to a record carry it on. -/
def Proc.CarriesOn (proc : Proc α) (state : σ) : Prop :=
  proc.Keeps (records.world (records.halting id)) (Request.CarriesOn records id)
    (fun _ _ => True) state

/-- All changes that a procedure makes to a record cancel or pause it. -/
def Proc.MayHalt (proc : Proc α) (state : σ) : Prop :=
  proc.Keeps (records.world (records.halting id)) (Request.MayHalt records id)
    (fun _ _ => True) state

variable {records id}

theorem Proc.Keeps.weaken {world : World σ} {before weaker : Request → σ → Prop}
    {after : α → σ → Prop} {proc : Proc α} {state : σ}
    (weakens : ∀ request state, before request state → weaker request state)
    (keeps : proc.Keeps world before after state) : proc.Keeps world weaker after state := by
  induction proc generalizing state with
  | done value => exact keeps
  | ask request next ih =>
      exact ⟨weakens request state keeps.1,
        fun answer middle answered => ih answer (keeps.2 answer middle answered)⟩

theorem Request.MayHalt.carriesOn {request : Request} {state : σ}
    (halts : request.MayHalt records id state) : request.CarriesOn records id state := by
  intro altering
  rcases halts altering with ⟨inst, stored, rfl, held, same, _, moves⟩
  refine ⟨inst, rfl, fun found holds => ?_⟩
  cases held.symm.trans holds
  exact ⟨same.accrues, .inr moves⟩

/-- What may be asked while an action is performed leaves the record, or cancels or pauses it. -/
theorem Request.MayHalt.halted {others : (request : Request) → request.Answer} {request : Request}
    {state : σ} (halts : request.MayHalt records id state) :
    Halted (records.record? state id)
      (records.record? (records.reply others request state).2 id) := by
  cases altering : alters id request with
  | false => exact .inl (record?_reply altering)
  | true =>
      rcases halts altering with ⟨inst, stored, rfl, held, same, interrupts, _⟩
      refine .inr ⟨inst, stored, held, ?_, same, interrupts⟩
      exact (records.record?_save state inst id).trans (if_pos (eq_of_beq altering))

/-- A procedure that waits for an action goes on as before when others have cancelled or paused the
instance meanwhile. -/
theorem Proc.Keeps.of_halted {before : Request → σ → Prop} {after : α → σ → Prop} {proc : Proc α}
    {state final : σ} (silent : ∀ invocation state, before (.perform invocation) state)
    (performs : proc.performs = true)
    (halted : Halted (records.record? state id) (records.record? final id))
    (keeps : proc.Keeps (records.world (records.halting id)) before after state) :
    proc.Keeps (records.world (records.halting id)) before after final := by
  unfold Proc.performs at performs
  split at performs
  · next invocation next =>
      have forward : invocation.purpose ≠ .compensation := by simpa using performs
      refine ⟨silent invocation final, fun answer last answered => keeps.2 answer last ?_⟩
      rcases answered with rfl | ⟨_, further⟩
      · exact .inr ⟨forward, halted⟩
      · exact .inr ⟨forward, halted.trans further⟩
  · cases performs

/-- Nothing is changed by waiting for an action. -/
theorem Request.mayHalt_perform (invocation : Invocation) (state : σ) :
    (Request.perform invocation).MayHalt records id state := by
  intro altering
  cases altering

theorem Proc.Keeps.of_isDone {world : World σ} {before : Request → σ → Prop} {proc : Proc α}
    {state final : σ} (ended : proc.isDone = true)
    (keeps : proc.Keeps world before (fun _ _ => True) state) :
    proc.Keeps world before (fun _ _ => True) final := by
  cases proc with
  | done value => exact keeps
  | ask request next => cases ended

variable (records id) in
/-- Answers of the store, and any others, are among those of this world. -/
theorem halting_reply (others : (request : Request) → request.Answer) (request : Request)
    (state : σ) :
    records.world (records.halting id) request state (records.reply others request state).1
      (records.reply others request state).2 := by
  cases request with
  | contains | load | save | remove => exact ⟨rfl, rfl⟩
  | perform => exact .inl rfl
  | _ => rfl

end Procedures

/-! ## Runs -/

namespace Phase

/-- What a run has in a phase grew out of the record.  Their states are the same, unless the
instance was cancelled or paused while an action was performed. -/
structure CarriesOn {σ : Type} (records : Records σ) (id : String) (phase : Phase) (state : σ) :
    Prop where
  undoes : ∀ inst error invocation pending, phase = .undo inst error invocation pending →
    invocation.purpose = .compensation
  has : ∀ inst, phase.Has inst → inst.id = id ∧
    ∃ stored, records.record? state id = some stored ∧ inst.Accrues stored ∧
      (stored.state = inst.state ∨
        (∃ trial outcome, phase = .tried trial outcome) ∧ stored.state.interrupts = true)

end Phase

section Runs

variable {σ : Type} {records : Records σ} {id : String} {runner : Runner}
variable {phase after : Phase} {state final : σ}

/-- What a run has stays fit as long as the record is as it was, and no action was performed. -/
theorem Phase.CarriesOn.onward (carries : phase.CarriesOn records id state)
    (follows : phase.Follows after) (untried : ∀ trial outcome, phase ≠ .tried trial outcome)
    (same : records.record? final id = records.record? state id)
    (had : ∀ inst, after.Has inst → ∃ earlier, phase.Has earlier ∧ inst.Accrues earlier ∧
      inst.state = earlier.state) :
    after.CarriesOn records id final := by
  constructor
  · exact follows.undoes
  · intro inst has
    rcases had inst has with ⟨earlier, before, accrues, sameState⟩
    rcases carries.has earlier before with
      ⟨sameId, stored, held, grown, states | ⟨⟨trial, outcome, tried⟩, _⟩⟩
    · exact ⟨accrues.id_eq.trans sameId, stored, same.trans held, accrues.trans grown,
        .inl (states.trans sameState.symm)⟩
    · exact absurd tried (untried trial outcome)

theorem carriesOn_keep {saved : Instance} {lost : Failure → Phase}
    (carries : phase.CarriesOn records id state) (saves : phase.Saves runner saved after lost) :
    after.CarriesOn records id (records.save state saved) := by
  rcases saves.accrues with ⟨inst, has, accrues, _⟩
  have sameId : saved.id = id := accrues.id_eq.trans (carries.has inst has).1
  have held : records.record? (records.save state saved) id = some saved :=
    (records.record?_save state saved id).trans (if_pos sameId)
  constructor
  · intro inst error invocation pending undoing
    cases saves <;> cases undoing
  · intro other hasNow
    rw [saves.kept_has hasNow]
    exact ⟨sameId, saved, held, .refl saved, .inl rfl⟩

theorem carriesOn_look {looked : Instance} {onward : Phase}
    (carries : phase.CarriesOn records id state) (looks : phase.Looks looked onward) :
    (Phase.afterLook looked onward (.ofLoaded (records.load state looked.id))).CarriesOn records id
      state := by
  constructor
  · exact (looks.follows _).undoes
  · intro inst hasNow
    rcases looks.has hasNow with ⟨has, rfl⟩
    rcases carries.has inst has with ⟨sameId, stored, held, grown, states | ⟨_, interrupts⟩⟩
    · exact ⟨sameId, stored, held, grown, .inl states⟩
    · -- an instance that was moved is found, and then the run has none any more
      have found : records.load state inst.id = .ok stored := by
        rw [sameId]
        exact records.load_eq_ok.mpr held
      rw [found] at hasNow
      simp only [Interruption.ofLoaded, interrupts, if_true] at hasNow
      rcases hasNow with ⟨⟨⟩⟩ | ⟨⟨⟩⟩

/-- While an action is performed for a step, the record may be moved. -/
theorem carriesOn_perform {trial : Trial} {answer : Except Failure Reply}
    (carries : (Phase.permitted trial).CarriesOn records id state)
    (answered : records.world (records.halting id) (.perform (trial.invocation runner)) state answer
      final) :
    (Phase.tried trial (trial.outcome answer)).CarriesOn records id final := by
  have unmoved : ∀ trial' outcome, Phase.permitted trial ≠ .tried trial' outcome := by
    rintro _ _ ⟨⟩
  constructor
  · intro _ _ _ _ undoing
    cases undoing
  · intro inst hasNow
    have has : (Phase.permitted trial).Has inst := by
      rcases hasNow with ⟨⟨⟩⟩ | worked
      exact .inr worked
    rcases carries.has inst has with ⟨sameId, stored, held, grown, states | ⟨⟨_, _, tried⟩, _⟩⟩
    · have halted : Halted (records.record? state id) (records.record? final id) := by
        rcases answered with rfl | ⟨_, halted⟩
        · exact .inl rfl
        · exact halted
      rw [held] at halted
      rcases halted with same | ⟨moved, _, ⟨⟩, holds, work, interrupts⟩
      · exact ⟨sameId, stored, same, grown, .inl states⟩
      · exact ⟨sameId, moved, holds, grown.trans work.symm.accrues,
          .inr ⟨⟨trial, _, rfl⟩, interrupts⟩⟩
    · exact absurd tried (unmoved _ _)

theorem carriesOn_act {request : Request} {answer : request.Answer}
    (carries : phase.CarriesOn records id state) (acts : phase.Acts runner request answer after)
    (answered : records.world (records.halting id) request state answer final) :
    after.CarriesOn records id final := by
  have had : ∀ inst, after.Has inst → ∃ earlier, phase.Has earlier ∧ inst.Accrues earlier ∧
      inst.state = earlier.state :=
    fun inst has => ⟨inst, acts.has has, .refl inst, rfl⟩
  have follows := acts.follows
  cases acts with
  | perform => exact carriesOn_perform carries answered
  | @undo inst error invocation pending answer =>
      have undoes := carries.undoes inst error invocation pending rfl
      rcases answered with rfl | ⟨forward, _⟩
      · exact carries.onward follows (by rintro _ _ ⟨⟩) rfl had
      · exact absurd undoes forward
  | make | permit | draw | rest | unmake =>
      cases answered
      exact carries.onward follows (by rintro _ _ ⟨⟩) rfl had

/-- Runs carry on the record of their instance. -/
theorem carriesOn_invariant :
    runner.protocol.Invariant (records.world (records.halting id)) fun _ phase state =>
      phase.CarriesOn records id state where
  shift := by
    intro _ phase state after carries shifts
    apply carries.onward shifts.follows
    · rintro trial outcome rfl
      cases shifts
    · rfl
    · intro inst has
      exact shifts.accrues has
  move := by
    intro _ phase state request answer after final carries moves answered
    cases moves with
    | log =>
        cases answered
        exact carries
    | keep saves =>
        rcases answered with ⟨_, rfl⟩
        exact carriesOn_keep carries saves
    | lose saves => cases answered.1
    | look looks =>
        rcases answered with ⟨rfl, rfl⟩
        exact carriesOn_look carries looks
    | emit emits =>
        cases answered
        apply carries.onward emits.follows
        · rintro trial outcome rfl
          cases emits
        · rfl
        · intro inst has
          exact ⟨inst, emits.has has, .refl inst, rfl⟩
    | act acts => exact carriesOn_act carries acts answered

/-- The run of the instance that is stored carries it on. -/
theorem run_carriesOn {inst : Instance} (held : records.record? state id = some inst) :
    (runner.run inst).CarriesOn records id state := by
  have sameId : inst.id = id := records.id_of_record? held
  have start : (Phase.idle inst).CarriesOn records id state := by
    constructor
    · intro _ _ _ _ undoing
      cases undoing
    · rintro _ (⟨⟨⟩⟩ | ⟨⟨⟩⟩)
      exact ⟨sameId, inst, held, .refl inst, .inl rfl⟩
  apply carriesOn_invariant.keeps _ (fun _ _ => trivial) (run_governed inst) [] start
  intro _ phase state request carries moves altering
  cases request with
  | save saved =>
      rcases moves (.ok ()) with ⟨after, moves⟩
      cases moves with
      | keep saves =>
          rcases saves.accrues with ⟨inst, has, accrues, moved⟩
          refine ⟨saved, rfl, fun stored holds => ?_⟩
          rcases (carries.has inst has).2 with ⟨_, held, grown, states | ⟨⟨_, _, rfl⟩, _⟩⟩
          · cases held.symm.trans holds
            rw [← states] at moved
            exact ⟨accrues.trans grown, moved⟩
          · cases saves
      | act acts => cases acts
  | remove removed =>
      rcases moves (.ok true) with ⟨after, moves⟩
      cases moves with
      | act acts => cases acts
  | _ => cases altering

end Runs

/-! ## Calls -/

section Calls

variable {σ α β : Type} {records : Records σ} {id : String} {runner : Runner} {state : σ}

variable {actors : Actors σ} {before : Request → σ → Prop} {after : α → σ → Prop}

/-- What is told in the log changes nothing about what a procedure keeps. -/
theorem keeps_log {level : Level} {message : String} {next : Unit → Proc α}
    (silent : ∀ record state, before (.log record) state)
    (keeps : (next ()).Keeps (records.world actors) before after state) :
    ((Proc.log level message).bind next).Keeps (records.world actors) before after state := by
  constructor
  · exact silent _ state
  · intro _ after answered
    cases answered
    exact keeps

theorem keeps_emit {event : Event} {next : Unit → Proc α}
    (silent : ∀ record state, before (.log record) state)
    (untold : ∀ event state, before (.emit event) state)
    (keeps : (next ()).Keeps (records.world actors) before after state) :
    ((Proc.emit event).bind next).Keeps (records.world actors) before after state := by
  constructor
  · exact untold event state
  · intro delivered after answered
    cases answered
    cases delivered with
    | true => exact keeps
    | false => exact keeps_log silent keeps

theorem carriesOn_map {proc : Proc α} {change : α → β} :
    (change <$> proc).CarriesOn records id state ↔ proc.CarriesOn records id state :=
  keeps_bind

theorem carriesOn_log {level : Level} {message : String} {next : Unit → Proc α}
    (carries : (next ()).CarriesOn records id state) :
    ((Proc.log level message).bind next).CarriesOn records id state := by
  apply keeps_log _ carries
  intro _ _ altering
  cases altering

theorem carriesOn_logWarnings {warnings : List String} {next : Unit → Proc α}
    (carries : (next ()).CarriesOn records id state) :
    ((logWarnings warnings).bind next).CarriesOn records id state :=
  logWarnings_bind (Proc.CarriesOn records id · state) (fun _ => carriesOn_log) carries

theorem resume_carriesOn : (runner.resume id).CarriesOn records id state := by
  constructor
  · intro altering
    cases altering
  · intro answer after answered
    rcases answered with ⟨rfl, rfl⟩
    simp only [Records.load]
    cases held : records.record? after id with
    | none => trivial
    | some stored =>
        simp only [Proc.done_bind]
        split
        · trivial
        · exact carriesOn_log (run_carriesOn held)

/-- An instance is launched where there is none. -/
theorem launch_carriesOn {definition : Definition} {data : Dict}
    (free : records.record? state id = none) :
    (runner.launch id definition data).CarriesOn records id state := by
  constructor
  · intro _
    refine ⟨_, rfl, fun stored held => ?_⟩
    rw [free] at held
    cases held
  · intro answer after answered
    rcases answered with ⟨rfl, rfl⟩
    have held := records.record?_save_self state (.fresh id definition data runner.now)
    apply carriesOn_log
    apply keeps_emit
    · intro _ _ altering
      cases altering
    · intro _ _ altering
      cases altering
    · exact carriesOn_map.mpr (run_carriesOn held)

theorem start_carriesOn {source : Definition.Source} {context : Value} (named : id ≠ "") :
    (runner.start (some id) source context).CarriesOn records id state := by
  simp only [Runner.start, Runner.readDefinition]
  simp only [Proc.bind_eq, Proc.bind_assoc]
  apply carriesOn_logWarnings
  simp only [Proc.pure_eq, Proc.done_bind]
  cases Definition.parse source with
  | error failure => trivial
  | ok definition =>
      simp only [newId_named named, Proc.done_bind]
      constructor
      · intro altering
        cases altering
      · intro answer after answered
        rcases answered with ⟨rfl, rfl⟩
        cases held : records.record? after id with
        | some stored =>
            constructor
            · intro altering
              cases altering
            · intro loaded _ _
              cases loaded <;> trivial
        | none =>
            simp only [Option.isSome_none, Proc.done_bind]
            cases initialData context with
            | error failure => trivial
            | ok data => exact launch_carriesOn held

/-- A call that moves a stored instance to a state that interrupts runs changes nothing else. -/
theorem moveStored_mayHalt {target : State} {amend : Instance → Instance}
    {line : Instance → String} {body : Instance → Except Failure EventBody}
    (interrupts : target.interrupts = true)
    (amends : ∀ inst, (amend inst).SameWork inst ∧ (amend inst).state = inst.state) :
    (runner.moveStored id target amend line body).MayHalt records id state := by
  constructor
  · intro altering
    cases altering
  · intro answer after answered
    rcases answered with ⟨rfl, rfl⟩
    simp only [Records.load]
    cases held : records.record? after id with
    | none => trivial
    | some stored =>
        simp only [Proc.done_bind]
        cases moves : stored.transitionTo target runner.now with
        | error error => trivial
        | ok changed =>
            rcases Instance.transitionTo_eq_ok.mp moves with ⟨allowed, rfl⟩
            rcases amends { stored with state := target, updatedAt := runner.now } with
              ⟨work, sameState⟩
            constructor
            · intro _
              refine ⟨_, stored, rfl, held, work.trans rfl, ?_, ?_⟩
              · rw [sameState]
                exact interrupts
              · rw [sameState]
                exact allowed
            · intro kept final answered
              rcases answered with ⟨rfl, rfl⟩
              have silent : ∀ record state, Request.MayHalt records id (.log record) state := by
                intro _ _ altering
                cases altering
              apply keeps_log silent
              cases body _ with
              | error failure => trivial
              | ok body =>
                  apply keeps_emit silent
                  · intro _ _ altering
                    cases altering
                  · trivial

theorem EngineCall.proc_mayHalt {call : EngineCall} (halts : call.Halts id) :
    (call.proc runner).MayHalt records id state := by
  cases call with
  | cancel halted reason =>
      cases halts
      apply keeps_bind.mpr
      apply Proc.Keeps.mono fun _ _ _ => trivial
      apply moveStored_mayHalt rfl
      intro inst
      split <;> exact ⟨rfl, rfl⟩
  | pause halted =>
      cases halts
      apply keeps_bind.mpr
      apply Proc.Keeps.mono fun _ _ _ => trivial
      apply moveStored_mayHalt rfl
      intro inst
      exact ⟨.refl inst, rfl⟩
  | start | resume | delete => cases halts

theorem EngineCall.proc_carriesOn {call : EngineCall} (concerns : call.Concerns id) :
    (call.proc runner).CarriesOn records id state := by
  cases call with
  | start named source context =>
      rcases concerns with ⟨rfl, named⟩
      exact carriesOn_map.mpr (start_carriesOn named)
  | resume target =>
      cases concerns
      exact carriesOn_map.mpr resume_carriesOn
  | cancel target reason | pause target =>
      apply Proc.Keeps.weaken fun _ _ => Request.MayHalt.carriesOn
      exact EngineCall.proc_mayHalt concerns
  | delete target => cases concerns

end Calls

/-! ## Schedules under sequential control -/

namespace Situation

variable {σ : Type} {records : Records σ} {id : String} {situation : Situation σ}

/-- What holds of a situation under sequential control: every call carries the record on, and when
two have not ended, then the outer one waits for an action and the inner one cancels or pauses. -/
structure Orderly (records : Records σ) (id : String) (situation : Situation σ) : Prop where
  carriesOn : ∀ caller rest, situation.rest? caller = some rest →
    rest.CarriesOn records id situation.state
  nested : ∀ outer inner rest within, outer < inner → situation.rest? outer = some rest →
    situation.rest? inner = some within →
    rest.isDone = true ∨ within.isDone = true ∨
      rest.performs = true ∧ within.MayHalt records id situation.state

theorem rest?_eq_some {caller : Nat} {rest : Proc (Except Failure Unit)} :
    situation.rest? caller = some rest ↔ ∃ call, situation.calls[caller]? = some call ∧
      call.rest = rest :=
  Option.map_eq_some_iff

theorem isDone_of_later {caller other : Nat} {rest : Proc (Except Failure Unit)}
    (idle : ∀ inner ∈ situation.calls.drop (caller + 1), inner.rest.isDone = true)
    (later : caller < other) (left : situation.rest? other = some rest) : rest.isDone = true := by
  rcases rest?_eq_some.mp left with ⟨call, found, rfl⟩
  have dropped : (situation.calls.drop (caller + 1))[other - (caller + 1)]? = some call := by
    rw [List.getElem?_drop, Nat.add_sub_cancel' later]
    exact found
  exact idle call (List.mem_of_getElem? dropped)

/-- What a call that waits while another one asks for something has left stays fit. -/
theorem Orderly.bystands {caller other : Nat} {request : Request}
    {next : request.Answer → Proc (Except Failure Unit)} {rest : Proc (Except Failure Unit)}
    {others : (request : Request) → request.Answer} (orderly : situation.Orderly records id)
    (idle : ∀ inner ∈ situation.calls.drop (caller + 1), inner.rest.isDone = true)
    (asks : situation.rest? caller = some (.ask request next)) (different : other ≠ caller)
    (left : situation.rest? other = some rest) :
    rest.isDone = true ∨ rest.performs = true ∧
      Halted (records.record? situation.state id)
        (records.record? (records.reply others request situation.state).2 id) := by
  rcases Nat.lt_or_gt_of_ne different with earlier | later
  · rcases orderly.nested other caller rest _ earlier left asks with ended | ended | ⟨waits, halts⟩
    · exact .inl ended
    · cases ended
    · exact .inr ⟨waits, Request.MayHalt.halted halts.1⟩
  · exact .inl (isDone_of_later idle later left)

theorem Orderly.turn {caller : Nat} {request : Request}
    {next : request.Answer → Proc (Except Failure Unit)}
    {others : (request : Request) → request.Answer} (orderly : situation.Orderly records id)
    (idle : ∀ inner ∈ situation.calls.drop (caller + 1), inner.rest.isDone = true)
    (asks : situation.rest? caller = some (.ask request next)) :
    (situation.after records id (.turn caller others)).Orderly records id := by
  rcases situation.after_turn id others asks with ⟨sameState, _, rests, _⟩
  have answered := halting_reply records id others request situation.state
  constructor
  · intro other rest left
    rw [rests] at left
    rw [sameState]
    by_cases same : other = caller
    · rw [if_pos same] at left
      cases left
      exact (orderly.carriesOn caller _ asks).2 _ _ answered
    · rw [if_neg same] at left
      have carries := orderly.carriesOn other rest left
      rcases orderly.bystands idle asks same left with ended | ⟨waits, halted⟩
      · exact carries.of_isDone ended
      · exact carries.of_halted (fun _ _ => (Request.mayHalt_perform _ _).carriesOn) waits halted
  · intro outer inner rest within nested left found
    rw [rests] at left found
    rw [sameState]
    by_cases sameInner : inner = caller
    · subst sameInner
      rw [if_pos rfl] at found
      cases found
      rw [if_neg (Nat.ne_of_lt nested)] at left
      rcases orderly.nested outer inner rest _ nested left asks with ended | ended | ⟨waits, halts⟩
      · exact .inl ended
      · cases ended
      · exact .inr (.inr ⟨waits, halts.2 _ _ answered⟩)
    · rw [if_neg sameInner] at found
      by_cases sameOuter : outer = caller
      · subst sameOuter
        exact .inr (.inl (isDone_of_later idle nested found))
      · rw [if_neg sameOuter] at left
        rcases orderly.nested outer inner rest within nested left found with
          ended | ended | ⟨waits, halts⟩
        · exact .inl ended
        · exact .inr (.inl ended)
        · rcases orderly.bystands idle asks sameInner found with ended | ⟨performs, halted⟩
          · exact .inr (.inl ended)
          · exact .inr (.inr ⟨waits, halts.of_halted Request.mayHalt_perform performs halted⟩)

theorem Orderly.begins {runner : Runner} {call : EngineCall} (orderly : situation.Orderly records id)
    (admits : situation.Admits id (.begins runner call)) :
    (situation.after records id (.begins runner call)).Orderly records id := by
  have rests : ∀ caller, (situation.after records id (.begins runner call)).rest? caller =
      if caller = situation.calls.length then some (call.proc runner)
      else situation.rest? caller :=
    situation.rest?_after_begins runner call
  have sameState : (situation.after records id (.begins runner call)).state = situation.state := rfl
  constructor
  · intro caller rest left
    rw [rests] at left
    rw [sameState]
    split at left
    · cases left
      rcases admits with ⟨concerns, _⟩ | ⟨halts, _⟩
      · exact EngineCall.proc_carriesOn concerns
      · exact EngineCall.proc_carriesOn halts.concerns
    · exact orderly.carriesOn caller rest left
  · intro outer inner rest within nested left found
    rw [rests] at left found
    rw [sameState]
    split at found
    · next last =>
        cases found
        rw [if_neg (by omega)] at left
        rcases rest?_eq_some.mp left with ⟨earlier, at_, rfl⟩
        have member := List.mem_of_getElem? at_
        rcases admits with ⟨_, ended⟩ | ⟨halts, waiting⟩
        · exact .inl (ended earlier member)
        · rcases waiting earlier member with ended | waits
          · exact .inl ended
          · exact .inr (.inr ⟨waits, EngineCall.proc_mayHalt halts⟩)
    · next notLast =>
        have inside : inner < situation.calls.length := by
          rcases rest?_eq_some.mp found with ⟨call, at_, _⟩
          exact (List.getElem?_eq_some_iff.mp at_).1
        rw [if_neg (by omega)] at left
        exact orderly.nested outer inner rest within nested left found

theorem Orderly.after {moment : Moment} (orderly : situation.Orderly records id)
    (admits : situation.Admits id moment) :
    (situation.after records id moment).Orderly records id := by
  cases moment with
  | begins runner call => exact orderly.begins admits
  | turn caller others =>
      by_cases asking : ∃ request next, situation.rest? caller = some (.ask request next)
      · rcases asking with ⟨request, next, asks⟩
        exact orderly.turn admits asks
      · rw [(situation.after_turn_idle id others fun request next asks =>
          asking ⟨request, next, asks⟩).1]
        exact orderly

/-- Sequential control keeps every situation in order. -/
theorem Orderly.play {schedule : List Moment} (orderly : situation.Orderly records id)
    (sequential : situation.Sequential records id schedule) :
    (situation.play records id schedule).Orderly records id := by
  induction schedule generalizing situation with
  | nil => exact orderly
  | cons moment rest ih => exact ih (orderly.after sequential.1) sequential.2

/-- What a moment does to the record of the instance in an orderly situation. -/
theorem Orderly.succeeds {moment : Moment} {stored : Instance}
    (orderly : situation.Orderly records id)
    (held : records.record? situation.state id = some stored) :
    ∃ next, records.record? (situation.after records id moment).state id = some next ∧
      next.Succeeds stored := by
  cases moment with
  | begins runner call => exact ⟨stored, held, .refl stored⟩
  | turn caller others =>
      by_cases asking : ∃ request next, situation.rest? caller = some (.ask request next)
      · rcases asking with ⟨request, next, asks⟩
        rw [(situation.after_turn id others asks).1]
        cases altering : alters id request with
        | false => exact ⟨stored, (record?_reply altering).trans held, .refl stored⟩
        | true =>
            rcases (orderly.carriesOn caller _ asks).1 altering with ⟨inst, rfl, succeeds⟩
            have saved := records.record?_save situation.state inst id
            exact ⟨inst, saved.trans (if_pos (eq_of_beq altering)), succeeds stored held⟩
      · rw [(situation.after_turn_idle id others fun request next asks =>
          asking ⟨request, next, asks⟩).1]
        exact ⟨stored, held, .refl stored⟩

end Situation

end Workflow
