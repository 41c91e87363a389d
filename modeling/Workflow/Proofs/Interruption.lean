import Workflow.Proofs.Absorption

/-!
# Interrupted attempts

While an action is performed, others may cancel or pause the instance that it is performed for.
The run looks for that after every attempt, and it wins over everything the attempt gave: the run
returns the instance as it was found, and asks for nothing else any more.

What such calls do is followed first, however they are interleaved: the record keeps all of the work
that is in it, and it is cancelled or paused once one of the calls has succeeded.
-/

namespace Workflow

/-- An instance is another one, but for its state, its message and the time of its last change. -/
def Instance.SameWork (inst other : Instance) : Prop :=
  inst = { other with
    state := inst.state, errorMessage := inst.errorMessage, updatedAt := inst.updatedAt }

namespace Instance.SameWork

variable {inst other last : Instance}

@[refl] theorem refl (inst : Instance) : inst.SameWork inst :=
  rfl

theorem trans (first : inst.SameWork other) (second : other.SameWork last) :
    inst.SameWork last := by
  simp only [SameWork] at first second ⊢
  rw [first, second]

theorem id_eq (same : inst.SameWork other) : inst.id = other.id := by
  rw [same]

end Instance.SameWork

/-! ## Calls that cancel or pause -/

/-- Whether a call cancels or pauses an instance. -/
def EngineCall.Halts (id : String) : EngineCall → Prop
  | .cancel halted _ | .pause halted => halted = id
  | _ => False

/-- Calls that cancel or pause an instance, and no others, lead from a state of the store to a
situation. -/
def Records.Halting {σ : Type} (records : Records σ) (id : String) (state : σ)
    (situation : Situation σ) : Prop :=
  ∃ schedule, (∀ runner call, .begins runner call ∈ schedule → call.Halts id) ∧
    .play records id ⟨state, []⟩ schedule = situation

/-- A record under which an instance was found is as it was held before, or was moved since; the
state tells whether it was. -/
def haltingWorld (id : String) (held : Option Instance) : World Bool
  | .load loaded, moved, answer, after =>
    (∀ stored, answer = .ok stored →
      stored.id = loaded ∧ (loaded = id → ∃ inst, held = some inst ∧ stored.SameWork inst)) ∧
        (moved = true → after = true)
  | .save inst, moved, answer, after =>
    answer = .ok () ∧ (inst.id = id → after = true) ∧ (moved = true → after = true)
  | _, moved, _, after => moved = true → after = true

/-- What changes the record of an id saves it with the same work, cancelled or paused. -/
def Request.Moves (request : Request) (id : String) (held : Option Instance) : Prop :=
  alters id request = true → ∃ inst stored, request = .save inst ∧ held = some stored ∧
    inst.SameWork stored ∧ inst.state.interrupts = true

/-- A procedure at most moves the record of an id, and succeeds only when it was moved. -/
def Proc.Halts {α : Type} (proc : Proc (Except Failure α)) (id : String) (held : Option Instance)
    (moved : Bool) : Prop :=
  proc.Keeps (haltingWorld id held) (fun request _ => request.Moves id held)
    (fun value moved => value.isOk = true → moved = true) moved

section Calls

variable {α β : Type} {id : String} {held : Option Instance} {moved : Bool}

/-- What moved a record is not undone. -/
theorem Proc.Halts.of_moved {proc : Proc (Except Failure α)} {further : Bool}
    (halts : proc.Halts id held moved) (moves : moved = true → further = true) :
    proc.Halts id held further := by
  induction proc generalizing moved further with
  | done value => exact fun succeeds => moves (halts succeeds)
  | ask request next ih =>
      refine ⟨halts.1, fun answer after answered => halts.2 answer after ?_⟩
      cases request with
      | load loaded => exact ⟨answered.1, fun first => answered.2 (moves first)⟩
      | save inst => exact ⟨answered.1, answered.2.1, fun first => answered.2.2 (moves first)⟩
      | _ => exact fun first => answered (moves first)

theorem halts_map {proc : Proc (Except Failure α)} {change : α → β}
    (halts : proc.Halts id held moved) : Proc.Halts (Except.map change <$> proc) id held moved := by
  refine Proc.keeps_bind.mpr (halts.mono fun value moved keeps succeeds => keeps ?_)
  cases value with
  | error failure => cases succeeds
  | ok value => rfl

theorem halts_log {level : Level} {message : String} {next : Unit → Proc (Except Failure α)}
    (halts : (next ()).Halts id held moved) :
    ((Proc.log level message).bind next).Halts id held moved := by
  refine ⟨fun changes => (by cases changes), fun _ after answered => ?_⟩
  exact halts.of_moved answered

theorem halts_emit {event : Event} {next : Unit → Proc (Except Failure α)}
    (halts : (next ()).Halts id held moved) :
    ((Proc.emit event).bind next).Halts id held moved := by
  refine ⟨fun changes => (by cases changes), fun delivered after answered => ?_⟩
  cases delivered with
  | true => exact halts.of_moved answered
  | false => exact halts_log (halts.of_moved answered)

theorem moveStored_halts {runner : Runner} {target : State} {amend : Instance → Instance}
    {line : Instance → String} {body : Instance → Except Failure EventBody}
    (interrupts : target.interrupts = true)
    (amends : ∀ inst, (amend inst).SameWork inst ∧ (amend inst).state = inst.state) :
    (runner.moveStored id target amend line body).Halts id held moved := by
  refine ⟨fun changes => (by cases changes), fun answer found answered => ?_⟩
  cases answer with
  | error failure => exact fun succeeds => (by cases succeeds)
  | ok stored =>
      rcases answered.1 stored rfl with ⟨sameId, known⟩
      rcases known rfl with ⟨inst, holds, same⟩
      simp only [Proc.done_bind]
      cases moves : stored.transitionTo target runner.now with
      | error error => exact fun succeeds => (by cases succeeds)
      | ok changed =>
          rcases Instance.transitionTo_eq_ok.mp moves with ⟨_, rfl⟩
          obtain ⟨sameWork, sameState⟩ :=
            amends { stored with state := target, updatedAt := runner.now }
          refine ⟨fun _ => ⟨_, inst, rfl, holds, ?_, ?_⟩, fun answer after answered => ?_⟩
          · exact sameWork.trans (.trans rfl same)
          · rw [sameState]
            exact interrupts
          · rcases answered with ⟨rfl, moves, _⟩
            have moved : after = true := moves (sameWork.id_eq.trans sameId)
            apply halts_log
            cases body _ with
            | error failure => exact fun succeeds => (by cases succeeds)
            | ok body => exact halts_emit fun _ => moved

/-- Calls that cancel or pause an instance at most move its record. -/
theorem EngineCall.proc_halts {runner : Runner} {call : EngineCall} (halts : call.Halts id) :
    (call.proc runner).Halts id held moved := by
  cases call with
  | cancel halted reason =>
      cases halts
      refine halts_map (moveStored_halts rfl fun inst => ?_)
      split
      · exact ⟨rfl, rfl⟩
      · exact ⟨rfl, rfl⟩
  | pause halted =>
      cases halts
      exact halts_map (moveStored_halts rfl fun inst => ⟨rfl, rfl⟩)
  | start | resume | delete => cases halts

end Calls

/-! ## The record after such calls -/

section Halting

variable {σ : Type} {records : Records σ} {id : String}

/-- Whether the record of an id is cancelled or paused. -/
def Records.interrupted (records : Records σ) (id : String) (state : σ) : Bool :=
  (records.record? state id).any (·.state.interrupts)

/-- A request that at most moves a record leaves its work as it is, and what was moved stays so. -/
theorem reply_moves (others : (request : Request) → request.Answer) {request : Request} {state : σ}
    {held : Option Instance} (moves : request.Moves id held)
    (fits : Option.Rel Instance.SameWork (records.record? state id) held) :
    Option.Rel Instance.SameWork
        (records.record? (records.reply others request state).2 id) held ∧
      (records.interrupted id state = true →
        records.interrupted id (records.reply others request state).2 = true) := by
  cases altering : alters id request with
  | true =>
      rcases moves altering with ⟨inst, stored, rfl, rfl, same, interrupts⟩
      have sameId : inst.id = id := by simpa [alters] using altering
      have after : records.record? (records.save state inst) id = some inst :=
        (records.record?_save state inst id).trans (if_pos sameId)
      simp only [Records.reply, Records.interrupted, after]
      exact ⟨.some same, fun _ => interrupts⟩
  | false =>
      simp only [Records.interrupted]
      rw [record?_reply altering]
      exact ⟨fits, fun found => found⟩

/-- Calls that cancel or pause an instance move its record at most, and have moved it when they
succeed. -/
theorem halting_invariant (held : Option Instance) :
    Situation.Invariant records id (·.Halts id)
      (fun state => Option.Rel Instance.SameWork (records.record? state id) held)
      (fun state call => call.rest.Halts id held (records.interrupted id state)) where
  begins runner call halts _ := EngineCall.proc_halts halts
  turns := by
    intro state request next overtaken others fits sound
    have moves := reply_moves others sound.1 fits
    refine ⟨moves.1, sound.2 _ _ ?_⟩
    cases request with
    | load loaded =>
        refine ⟨fun stored found => ?_, moves.2⟩
        have holds := records.load_eq_ok.mp found
        refine ⟨records.id_of_record? holds, fun same => ?_⟩
        subst same
        rw [holds] at fits
        cases fits with
        | some same => exact ⟨_, rfl, same⟩
    | save inst =>
        refine ⟨rfl, fun same => ?_, moves.2⟩
        rcases sound.1 (by simpa [alters] using same) with ⟨_, _, saves, _, _, interrupts⟩
        cases saves
        subst same
        simpa [Records.reply, Records.interrupted] using interrupts
    | _ => exact moves.2
  bystands := by
    intro state request next overtaken call others fits turned sound
    exact sound.of_moved (reply_moves others turned.1 fits).2

/-- The record of an instance that others cancel or pause keeps all of its work; once one of their
calls has succeeded, it is cancelled or paused. -/
theorem Records.Halting.record? {state : σ} {situation : Situation σ}
    (halting : records.Halting id state situation) :
    Option.Rel Instance.SameWork (records.record? situation.state id) (records.record? state id) ∧
      ∀ call ∈ situation.calls, call.succeeded = true →
        records.interrupted id situation.state = true := by
  rcases halting with ⟨schedule, halts, rfl⟩
  have start : Option.Rel Instance.SameWork (records.record? state id)
      (records.record? state id) := by
    cases records.record? state id with
    | none => exact .none
    | some held => exact .some (.refl held)
  have along := (halting_invariant (records.record? state id)).play ⟨state, []⟩ schedule halts start
    (by simp)
  refine ⟨along.1, fun call member succeeds => ?_⟩
  have moved := along.2 call member
  simp only [Call.succeeded] at succeeds
  split at succeeds
  · next rest =>
      rw [rest] at moved
      exact moved rfl
  · cases succeeds

end Halting

/-! ## What a run knows of its step -/

section Step

variable {σ : Type} {runner : Runner} {records : Records σ} {actors : Actors σ} {id : String}

/-- Actions and waits leave the store as it is, but for calls that cancel or pause an instance. -/
structure Actors.OnlyHalt (actors : Actors σ) (records : Records σ) (id : String) : Prop where
  make : ∀ {invocation state answer after}, actors.make invocation state answer after →
    ∃ situation, records.Halting id state situation ∧ situation.state = after
  permits : ∀ {invocation state answer after}, actors.permits invocation state answer after →
    ∃ situation, records.Halting id state situation ∧ situation.state = after
  perform : ∀ {invocation state answer after}, actors.perform invocation state answer after →
    ∃ situation, records.Halting id state situation ∧ situation.state = after
  sleep : ∀ {seconds state answer after}, actors.sleep seconds state answer after →
    ∃ situation, records.Halting id state situation ∧ situation.state = after

/-- The store holds an instance, but for what calls that cancel or pause it have changed. -/
def Records.HoldsWork (records : Records σ) (id : String) (inst : Instance) (state : σ) : Prop :=
  ∃ held, records.record? state id = some held ∧ held.SameWork inst

theorem Records.HoldsWork.halting {inst : Instance} {state : σ} {situation : Situation σ}
    (holds : records.HoldsWork id inst state) (halting : records.Halting id state situation) :
    records.HoldsWork id inst situation.state := by
  rcases holds with ⟨held, found, same⟩
  have moved := halting.record?.1
  simp only [Records.HoldsWork]
  rw [found] at moved
  generalize records.record? situation.state id = after at moved
  cases moved with
  | some moved => exact ⟨_, rfl, moved.trans same⟩

namespace Phase

/-- The step at which the instance was saved last, as long as nothing about it was recorded. -/
def entered? : Phase → Option Visit
  | .visit entered => some entered
  | .making trial | .attempt trial | .permitted trial | .tried trial _ | .broken trial _
  | .reported trial _ | .waiting trial | .resting trial _ => some trial.visit
  | _ => none

/-- What holds of the instance with an id in the phases of its run: at a step, it is what the store
holds as long as others only cancel and pause it. -/
structure Stands (records : Records σ) (actors : Actors σ) (id : String) (state : σ)
    (phase : Phase) : Prop where
  id_eq : ∀ inst, phase = .idle inst ∨ phase.worked? = some inst → inst.id = id
  undoes : ∀ inst error invocation pending, phase = .undo inst error invocation pending →
    invocation.purpose = .compensation
  step_eq : ∀ visit, phase.entered? = some visit →
    visit.inst.definition.step? visit.key = some visit.step ∧
      visit.inst.currentStep = .text visit.key
  holds : ∀ visit, phase.entered? = some visit → actors.OnlyHalt records id →
    records.HoldsWork id visit.inst state

/-- A phase follows another one without a save. -/
structure Follows (phase after : Phase) : Prop where
  entered : after.entered? = none ∨ after.entered? = phase.entered?
  begun : ∀ inst, after ≠ .idle inst
  undoes : ∀ inst error invocation pending, after = .undo inst error invocation pending →
    invocation.purpose = .compensation

theorem Looks.follows {phase onward : Phase} {inst : Instance} (looks : Looks phase inst onward)
    (interruption : Interruption) : phase.Follows (afterLook inst onward interruption) := by
  cases interruption with
  | none =>
      cases looks with
      | before => exact ⟨.inl rfl, by simp [afterLook], by simp [afterLook]⟩
      | @after trial outcome =>
          cases outcome with
          | ok result =>
              exact ⟨.inl rfl, by simp [afterLook, afterTrial], by simp [afterLook, afterTrial]⟩
          | error error =>
              exact ⟨.inr rfl, by simp [afterLook, afterTrial], by simp [afterLook, afterTrial]⟩
  | stopped | raised => exact ⟨.inl rfl, by simp [afterLook], by simp [afterLook]⟩

theorem Emits.follows {phase after : Phase} {event : Event}
    (emits : Emits runner phase event after) : phase.Follows after := by
  cases emits with
  | stepFailed => exact ⟨.inr rfl, by simp, by simp⟩
  | _ => exact ⟨.inl rfl, by simp, by simp⟩

theorem follows_afterDraw (trial : Trial) (wait : Number.Binary64 → Except Fault Number.Binary64)
    (fraction : Number.Binary64) :
    (Phase.waiting trial).Follows (afterDraw trial wait fraction) := by
  simp only [afterDraw]
  split
  · exact ⟨.inr rfl, by simp, by simp⟩
  · exact ⟨.inl rfl, by simp, by simp⟩

theorem Acts.follows {phase after : Phase} {request : Request} {answer : request.Answer}
    (acts : Acts runner phase request answer after) : phase.Follows after := by
  cases acts with
  | make =>
      simp only [afterMake]
      split
      · exact ⟨.inr rfl, by simp, by simp⟩
      · exact ⟨.inl rfl, by simp, by simp⟩
      · exact ⟨.inl rfl, by simp, by simp⟩
  | permit =>
      simp only [afterPermit]
      split <;> exact ⟨.inr rfl, by simp, by simp⟩
  | perform => exact ⟨.inr rfl, by simp, by simp⟩
  | draw => exact follows_afterDraw _ _ _
  | rest =>
      simp only [afterRest]
      split
      · exact ⟨.inr rfl, by simp, by simp⟩
      · exact ⟨.inl rfl, by simp, by simp⟩
  | unmake =>
      simp only [afterUnmake]
      split
      · refine ⟨.inl rfl, by simp, ?_⟩
        rintro _ _ _ _ ⟨⟩
        rfl
      · exact ⟨.inl rfl, by simp, by simp⟩
  | undo => exact ⟨.inl rfl, by simp, by simp⟩

theorem Shifts.follows {phase after : Phase} (shifts : Shifts runner phase after) :
    phase.Follows after := by
  cases shifts with
  | ready | retry | unwaited => exact ⟨.inr rfl, by simp, by simp⟩
  | _ => exact ⟨.inl rfl, by simp, by simp⟩

end Phase

theorem worked?_of_afterLook {onward : Phase} {inst other : Instance} {interruption : Interruption}
    (works : onward.worked? = some inst)
    (worked : (Phase.afterLook inst onward interruption).worked? = some other) : other = inst := by
  cases interruption with
  | none => exact Option.some.inj (worked.symm.trans works)
  | stopped stored => cases worked
  | raised failure =>
      cases worked
      rfl

variable {phase after : Phase} {state final : σ}

/-- What a run knows of its step stays true as long as it saves nothing. -/
theorem stands_follow (stands : phase.Stands records actors id state)
    (follows : phase.Follows after)
    (works : ∀ inst, after.worked? = some inst →
      ∃ before, (phase = .idle before ∨ phase.worked? = some before) ∧ inst.id = before.id)
    (keeps : ∀ inst, actors.OnlyHalt records id → records.HoldsWork id inst state →
      records.HoldsWork id inst final) :
    after.Stands records actors id final := by
  refine ⟨?_, follows.undoes, ?_, ?_⟩
  · intro inst works'
    cases works' with
    | inl begun => exact absurd begun (follows.begun inst)
    | inr worked =>
        rcases works inst worked with ⟨before, worked, sameId⟩
        exact sameId.trans (stands.id_eq before worked)
  · intro visit entered
    cases follows.entered with
    | inl left =>
        rw [left] at entered
        cases entered
    | inr same => exact stands.step_eq visit (same ▸ entered)
  · intro visit entered only
    cases follows.entered with
    | inl left =>
        rw [left] at entered
        cases entered
    | inr same => exact keeps visit.inst only (stands.holds visit (same ▸ entered) only)

theorem stands_keep {saved : Instance} {lost : Failure → Phase}
    (stands : phase.Stands records actors id state) (saves : phase.Saves runner saved after lost) :
    after.Stands records actors id (records.save state saved) := by
  rcases saves.id_eq with ⟨inst, works, sameId⟩
  have savedId : saved.id = id := sameId.trans (stands.id_eq inst works)
  cases saves with
  | enter found moves =>
      refine ⟨?_, by simp, ?_, ?_⟩
      · rintro other (begun | worked)
        · cases begun
        · cases worked
          exact savedId
      · rintro _ ⟨⟩
        rcases Instance.setCurrentStep_eq_ok.mp moves with ⟨_, rfl⟩
        exact ⟨found, rfl⟩
      · rintro _ ⟨⟩ _
        refine ⟨saved, ?_, .refl saved⟩
        rw [← savedId]
        exact records.record?_save_self state saved
  | start | leave | complete | fail | abort =>
      refine ⟨?_, by simp, by simp [Phase.entered?], by simp [Phase.entered?]⟩
      rintro other (begun | worked)
      · cases begun
      · cases worked <;> exact savedId

theorem stands_act {request : Request} {answer : request.Answer}
    (stands : phase.Stands records actors id state) (acts : phase.Acts runner request answer after)
    (answered : records.world actors request state answer final) :
    after.Stands records actors id final := by
  refine stands_follow stands acts.follows ?_ ?_
  · intro inst worked
    rcases acts.worked?_eq with ⟨before, was, is⟩
    rw [is] at worked
    cases worked
    exact ⟨_, .inr was, rfl⟩
  · intro inst only holds
    have halts : ∀ {state final : σ},
        (∃ situation, records.Halting id state situation ∧ situation.state = final) →
        records.HoldsWork id inst state → records.HoldsWork id inst final := by
      rintro state _ ⟨situation, halting, rfl⟩ holds
      exact holds.halting halting
    cases acts with
    | make | unmake => exact halts (only.make answered) holds
    | permit => exact halts (only.permits answered) holds
    | perform | undo => exact halts (only.perform answered) holds
    | rest => exact halts (only.sleep answered) holds
    | draw =>
        cases answered
        exact holds

theorem stands_invariant :
    runner.protocol.Invariant (records.world actors) fun _ phase state =>
      phase.Stands records actors id state where
  shift := by
    intro exchanges phase state after stands shifts
    refine stands_follow stands shifts.follows ?_ (fun _ _ holds => holds)
    intro inst worked
    rcases shifts.worked?_eq with
      ⟨begun, rfl⟩ | ⟨result, rfl⟩ | ⟨before, changed, was, is, sameId, _⟩
    · cases shifts with
      | resume =>
          cases worked
          exact ⟨_, .inl rfl, rfl⟩
      | unresumable | unstartable => cases worked
    · cases worked
    · rw [is] at worked
      cases worked
      exact ⟨before, .inr was, sameId⟩
  move := by
    intro exchanges phase state request answer after final stands moves answered
    cases moves with
    | log =>
        cases answered
        exact stands
    | keep saves =>
        rcases answered with ⟨_, rfl⟩
        exact stands_keep stands saves
    | lose saves => cases answered.1
    | look looks =>
        rcases answered with ⟨_, rfl⟩
        refine stands_follow stands (looks.follows _) ?_ (fun _ _ holds => holds)
        intro other worked
        rcases looks.worked?_eq with ⟨was, is⟩
        rw [worked?_of_afterLook is worked]
        exact ⟨_, .inr was, rfl⟩
    | emit emits =>
        cases answered
        refine stands_follow stands emits.follows ?_ (fun _ _ holds => holds)
        intro other worked
        cases emits.worked?_eq with
        | inl ended =>
            rcases ended with ⟨result, rfl⟩
            cases worked
        | inr works =>
            rcases works with ⟨inst, was, is⟩
            rw [is] at worked
            cases worked
            exact ⟨_, .inr was, rfl⟩
    | act acts => exact stands_act stands acts answered

end Step

/-! ## The end of an interrupted attempt -/

section Stopping

variable {σ : Type} {runner : Runner} {records : Records σ} {actors : Actors σ} {id : String}
variable {state : σ} {stored : Instance}

end Stopping

end Workflow
