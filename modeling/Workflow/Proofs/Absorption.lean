import Workflow.Proofs.Interleaving
import Workflow.Proofs.Outcome

/-!
# Ended records

A call that has ended an instance, or has found it ended before it began, never saves it again.
A call that was overtaken, because another one changed the record after it began, may still hold
the instance as it was before: it notices only that the instance was cancelled.  So however calls
are interleaved, only an overtaken call can save an instance whose record has ended.

What a call knows about a record is followed along its requests.  Every call is careful: as long
as it knows the record it saves the instance only while it has not ended, whatever it is answered.
-/

namespace Workflow

/-! ## What a call knows -/

/-- What a call knows about the record of an id. -/
inductive Knowledge where
  /-- Others may have changed it. -/
  | stale
  /-- It is what the store holds. -/
  | sure (record : Option Instance)

namespace Knowledge

variable (id : String)

/-- A call does not know that the record has ended. -/
def Unended : Knowledge → Prop
  | .stale => True
  | .sure record => ∀ stored, record = some stored → stored.state.isTerminal = false

/-- Knowledge lasts until another call changes the record. -/
def Fades (knowledge left : Knowledge) : Prop :=
  left = knowledge ∨ left = .stale

/-- What a call knows after a request. -/
def learn : (request : Request) → request.Answer → Knowledge → Knowledge
  | .save inst, _, knowledge => if inst.id = id then .sure (some inst) else knowledge
  | .remove removed, _, knowledge => if removed = id then .sure none else knowledge
  | .load loaded, .ok stored, .stale =>
    if loaded = id ∧ stored.state = .cancelled then .sure (some stored) else .stale
  | _, _, knowledge => knowledge

/-- Whether an answer agrees with what a call knows. -/
def Admits : (request : Request) → request.Answer → Knowledge → Prop
  | .save _, answer, _ => answer = .ok ()
  | .load loaded, answer, knowledge =>
    ∀ stored, answer = .ok stored → stored.id = loaded ∧
      (loaded = id → ∀ record, knowledge = .sure record → record = some stored)
  | .contains asked, answer, knowledge =>
    asked = id → ∀ record, knowledge = .sure record → answer = .ok record.isSome
  | _, _, _ => True

/-- The world as a call sees it that knows about a record. -/
def world : World Knowledge :=
  fun request knowledge answer after =>
    knowledge.Admits id request answer ∧ (knowledge.learn id request answer).Fades after

/-- An instance is not saved over a record that is known to have ended. -/
def Spares (request : Request) (knowledge : Knowledge) : Prop :=
  ∀ inst, request = .save inst → inst.id = id → knowledge.Unended

variable {id} {knowledge left : Knowledge}

theorem Fades.trans {last : Knowledge} (fades : knowledge.Fades left) (on : left.Fades last) :
    knowledge.Fades last := by
  cases on with
  | inl same => rwa [same]
  | inr stale => exact .inr stale

theorem Unended.fades (unended : knowledge.Unended) (fades : knowledge.Fades left) :
    left.Unended := by
  cases fades with
  | inl same => rwa [same]
  | inr stale =>
      rw [stale]
      trivial

end Knowledge

/-- Loading an instance that has not ended teaches nothing that lasts. -/
theorem learn_of_active {id loaded : String} {stored : Instance} {knowledge : Knowledge}
    (active : stored.state.isTerminal = false) :
    knowledge.learn id (.load loaded) (.ok stored) = knowledge := by
  have active : stored.state ≠ .cancelled := by
    rintro cancelled
    simp [cancelled, State.isTerminal, State.isActive] at active
  cases knowledge <;> simp [Knowledge.learn, active]

theorem canMoveTo_active {current target : State} (moves : current.canMoveTo target = true) :
    current.isTerminal = false := by
  revert moves
  cases current <;> cases target <;> decide

/-- A procedure never saves an instance over a record that it knows to have ended. -/
def Proc.Careful {α : Type} (id : String) (proc : Proc α) (knowledge : Knowledge) : Prop :=
  proc.Keeps (Knowledge.world id) (Knowledge.Spares id) (fun _ _ => True) knowledge

/-! ## Runs are careful -/

namespace Phase

/-- A run knows of no end of its instance as long as it is going to save it. -/
def Careful (id : String) (knowledge : Knowledge) : Phase → Prop
  | .idle inst => inst.id = id → knowledge.Unended
  | phase => ∀ inst, phase.worked? = some inst → inst.state = .running ∧
      (inst.id = id → knowledge.Unended)

end Phase

variable {runner : Runner} {id : String}

theorem careful_of_worked {phase : Phase} {inst : Instance} {knowledge : Knowledge}
    (worked : phase.worked? = some inst)
    (running : inst.state = .running ∧ (inst.id = id → knowledge.Unended)) :
    phase.Careful id knowledge := by
  cases phase <;> simp_all [Phase.Careful, Phase.worked?]

theorem running_of_worked {phase : Phase} {inst : Instance} {knowledge : Knowledge}
    (careful : phase.Careful id knowledge) (worked : phase.worked? = some inst) :
    inst.state = .running ∧ (inst.id = id → knowledge.Unended) := by
  cases phase <;> simp_all [Phase.Careful, Phase.worked?]

theorem careful_of_unworked {phase : Phase} {knowledge : Knowledge}
    (worked : phase.worked? = none) (begun : ∀ inst, phase ≠ .idle inst) :
    phase.Careful id knowledge := by
  cases phase <;> simp_all [Phase.Careful, Phase.worked?]

theorem careful_fades {phase : Phase} {knowledge left : Knowledge}
    (careful : phase.Careful id knowledge) (fades : knowledge.Fades left) :
    phase.Careful id left := by
  cases worked : phase.worked? with
  | some inst =>
      rcases running_of_worked careful worked with ⟨running, unended⟩
      exact careful_of_worked worked ⟨running, fun same => (unended same).fades fades⟩
  | none =>
      cases phase with
      | idle inst => exact fun same => (careful same).fades fades
      | _ => exact careful_of_unworked worked (by simp)

theorem unended_of_saves {phase kept : Phase} {saved : Instance} {lost : Failure → Phase}
    {knowledge : Knowledge} (careful : phase.Careful id knowledge)
    (saves : phase.Saves runner saved kept lost) (same : saved.id = id) : knowledge.Unended := by
  cases saves with
  | start _ _ starts =>
      rcases Instance.transitionTo_eq_ok.mp starts with ⟨_, rfl⟩
      exact careful same
  | enter _ moves =>
      rcases Instance.setCurrentStep_eq_ok.mp moves with ⟨_, rfl⟩
      exact (careful _ rfl).2 same
  | leave moves =>
      rcases Instance.setCurrentStep_eq_ok.mp moves with ⟨_, rfl⟩
      exact (careful _ rfl).2 same
  | complete completes =>
      rcases Instance.transitionTo_eq_ok.mp completes with ⟨_, rfl⟩
      exact (careful _ rfl).2 same
  | fail fails =>
      rcases Instance.fail_eq_ok.mp fails with ⟨_, rfl⟩
      exact (careful _ rfl).2 same
  | abort fails =>
      rcases Instance.fail_eq_ok.mp fails with ⟨_, rfl⟩
      exact (careful _ rfl).2 same

theorem careful_keep {phase kept : Phase} {saved : Instance} {lost : Failure → Phase}
    {knowledge : Knowledge} (careful : phase.Careful id knowledge)
    (saves : phase.Saves runner saved kept lost) :
    kept.Careful id (knowledge.learn id (.save saved) (.ok ())) := by
  have learns : saved.state = .running →
      saved.state = .running ∧
        (saved.id = id → (knowledge.learn id (.save saved) (.ok ())).Unended) := by
    intro running
    refine ⟨running, fun same => ?_⟩
    simp only [Knowledge.learn, if_pos same]
    rintro _ ⟨⟩
    simp [running, State.isTerminal, State.isActive]
  cases saves with
  | start _ _ starts =>
      rcases Instance.transitionTo_eq_ok.mp starts with ⟨_, rfl⟩
      exact careful_of_worked rfl (learns rfl)
  | enter _ moves =>
      rcases Instance.setCurrentStep_eq_ok.mp moves with ⟨_, rfl⟩
      exact careful_of_worked rfl (learns (careful _ rfl).1)
  | leave moves =>
      rcases Instance.setCurrentStep_eq_ok.mp moves with ⟨_, rfl⟩
      exact careful_of_worked rfl (learns (careful _ rfl).1)
  | complete => exact careful_of_unworked rfl (by simp)
  | fail => exact careful_of_unworked rfl (by simp)
  | abort => exact careful_of_unworked rfl (by simp)

theorem careful_shift {phase after : Phase} {knowledge : Knowledge}
    (careful : phase.Careful id knowledge) (shifts : phase.Shifts runner after) :
    after.Careful id knowledge := by
  rcases shifts.worked?_eq with ⟨inst, rfl⟩ | ⟨result, rfl⟩ |
    ⟨inst, changed, before, worked, sameId, _, sameState⟩
  · cases shifts with
    | resume running => exact careful_of_worked rfl ⟨running, careful⟩
    | unresumable | unstartable => exact careful_of_unworked rfl (by simp)
  · exact careful_of_unworked rfl (by simp)
  · rcases running_of_worked careful before with ⟨running, unended⟩
    rw [← sameState] at running
    rw [← sameId] at unended
    exact careful_of_worked worked ⟨running, unended⟩

theorem careful_look {phase onward : Phase} {inst : Instance} {knowledge : Knowledge}
    {answer : Except Failure Instance} (careful : phase.Careful id knowledge)
    (looks : phase.Looks inst onward) :
    (Phase.afterLook inst onward (.ofLoaded answer)).Careful id
      (knowledge.learn id (.load inst.id) answer) := by
  rcases looks.worked?_eq with ⟨before, worked⟩
  have running := running_of_worked careful before
  cases answer with
  | error failure =>
      have learns : knowledge.learn id (.load inst.id) (.error failure) = knowledge := by
        cases knowledge <;> rfl
      rw [learns]
      simp only [Interruption.ofLoaded]
      split
      · next found => cases found
      · exact careful_of_worked worked running
      · exact careful_of_worked rfl running
  | ok stored =>
      cases interrupts : stored.state.interrupts with
      | true =>
          have looked : Interruption.ofLoaded (.ok stored) = .stopped stored := if_pos interrupts
          rw [looked]
          exact careful_of_unworked rfl (by simp [Phase.afterLook])
      | false =>
          have looked : Interruption.ofLoaded (.ok stored) = .none := by
            simp [Interruption.ofLoaded, interrupts]
          have active : stored.state ≠ .cancelled := by
            rintro cancelled
            simp [cancelled, State.interrupts] at interrupts
          have learns : knowledge.learn id (.load inst.id) (.ok stored) = knowledge := by
            cases knowledge <;> simp [Knowledge.learn, active]
          rw [looked, learns]
          exact careful_of_worked worked running

theorem careful_emit {phase after : Phase} {event : Event} {knowledge : Knowledge}
    (careful : phase.Careful id knowledge) (emits : phase.Emits runner event after) :
    after.Careful id knowledge := by
  cases emits.worked?_eq with
  | inl ended =>
      rcases ended with ⟨result, rfl⟩
      exact careful_of_unworked rfl (by simp)
  | inr works =>
      rcases works with ⟨inst, before, worked⟩
      exact careful_of_worked worked (running_of_worked careful before)

theorem careful_act {phase after : Phase} {request : Request} {answer : request.Answer}
    {knowledge : Knowledge} (careful : phase.Careful id knowledge)
    (acts : phase.Acts runner request answer after) :
    after.Careful id (knowledge.learn id request answer) := by
  have learns : knowledge.learn id request answer = knowledge := by
    cases acts <;> cases knowledge <;> rfl
  rcases acts.worked?_eq with ⟨inst, before, worked⟩
  rw [learns]
  exact careful_of_worked worked (running_of_worked careful before)

/-- Runs are careful: a run never saves its instance when it knows that its record has ended. -/
theorem careful_invariant :
    runner.protocol.Invariant (Knowledge.world id) fun _ phase knowledge =>
      phase.Careful id knowledge where
  shift careful shifts := careful_shift careful shifts
  move := by
    intro exchanges phase knowledge request answer after final careful moves answered
    rcases answered with ⟨admits, fades⟩
    refine careful_fades ?_ fades
    cases moves with
    | log => exact careful
    | keep saves => exact careful_keep careful saves
    | lose saves => cases admits
    | look looks => exact careful_look careful looks
    | emit emits => exact careful_emit careful emits
    | act acts => exact careful_act careful acts

theorem run_careful {inst : Instance} {knowledge : Knowledge}
    (unended : inst.id = id → knowledge.Unended) :
    (runner.run inst).Careful id knowledge := by
  refine careful_invariant.keeps ?_ (fun _ _ => trivial) (run_governed inst) [] unended
  intro exchanges phase knowledge request careful moves saved same sameId
  subst same
  rcases moves (.ok ()) with ⟨after, moves⟩
  cases moves with
  | keep saves => exact unended_of_saves careful saves sameId
  | act acts => cases acts

/-! ## Engine calls are careful -/

theorem careful_map {α β : Type} {proc : Proc α} {change : α → β} {knowledge : Knowledge} :
    (change <$> proc).Careful id knowledge ↔ proc.Careful id knowledge :=
  Proc.keeps_bind

section Calls

variable {α : Type} {knowledge : Knowledge}

theorem careful_done {value : α} : (Proc.done value).Careful id knowledge :=
  trivial

theorem careful_log {level : Level} {message : String} {next : Unit → Proc α}
    (careful : ∀ left, knowledge.Fades left → (next ()).Careful id left) :
    ((Proc.log level message).bind next).Careful id knowledge :=
  ⟨fun inst same => (by cases same), fun _ left answered => careful left answered.2⟩

theorem careful_emit_bind {event : Event} {next : Unit → Proc α}
    (careful : ∀ left, knowledge.Fades left → (next ()).Careful id left) :
    ((Proc.emit event).bind next).Careful id knowledge := by
  refine ⟨fun inst same => (by cases same), fun delivered left answered => ?_⟩
  cases delivered with
  | true => exact careful left answered.2
  | false => exact careful_log fun other fades => careful other (answered.2.trans fades)

theorem careful_logWarnings {warnings : List String} {next : Unit → Proc α}
    (careful : ∀ left, knowledge.Fades left → (next ()).Careful id left) :
    ((logWarnings warnings).bind next).Careful id knowledge := by
  induction warnings generalizing knowledge with
  | nil => exact careful knowledge (.inl rfl)
  | cons warning rest ih =>
      simp only [logWarnings]
      rw [Proc.then_bind]
      exact careful_log fun left fades =>
        ih fun other fadesOn => careful other (fades.trans fadesOn)

/-- A call that loads an id goes on with what it is given, the record if it knew it. -/
theorem careful_load {loaded : String} {next : Except Failure Instance → Proc α}
    (missed : ∀ failure left, (next (.error failure)).Careful id left)
    (found : ∀ stored left,
      (stored.state.isTerminal = false → stored.id = id → left.Unended) →
      (next (.ok stored)).Careful id left) :
    ((Proc.request (.load loaded)).bind next).Careful id knowledge := by
  refine ⟨fun inst same => (by cases same), fun answer left answered => ?_⟩
  rcases answered with ⟨admits, fades⟩
  cases answer with
  | error failure => exact missed failure left
  | ok stored =>
      rcases admits stored rfl with ⟨sameId, held⟩
      apply found stored left
      intro active same
      have unended : knowledge.Unended := by
        cases knowledge with
        | stale => trivial
        | sure record =>
            rintro other rfl
            cases held (sameId.symm.trans same) _ rfl
            exact active
      rw [learn_of_active active] at fades
      exact unended.fades fades

theorem moveStored_careful {moved : String} {target : State} {amend : Instance → Instance}
    {line : Instance → String} {body : Instance → Except Failure EventBody}
    (keepsId : ∀ inst, (amend inst).id = inst.id) :
    (runner.moveStored moved target amend line body).Careful id knowledge := by
  refine careful_load (fun failure left => careful_done) fun stored left unended => ?_
  simp only
  cases moves : stored.transitionTo target runner.now with
  | error error => exact careful_done
  | ok inst =>
      rcases Instance.transitionTo_eq_ok.mp moves with ⟨allowed, rfl⟩
      refine ⟨?_, fun answer left answered => ?_⟩
      · rintro _ ⟨⟩ same
        rw [keepsId] at same
        exact unended (canMoveTo_active allowed) same
      · rcases answered with ⟨rfl, _⟩
        apply careful_log
        intro left fades
        cases body _ with
        | error failure => exact careful_done
        | ok body => exact careful_emit_bind fun left fades => careful_done

theorem resume_careful {resumed : String} : (runner.resume resumed).Careful id knowledge := by
  refine careful_load (fun failure left => careful_done) fun stored left unended => ?_
  simp only
  cases ended : stored.state.isTerminal with
  | true => exact careful_done
  | false =>
      exact careful_log fun other fades => run_careful fun same => (unended ended same).fades fades

theorem launch_careful {launched : String} {definition : Definition} {data : Dict}
    (unended : launched = id → knowledge.Unended) :
    (runner.launch launched definition data).Careful id knowledge := by
  refine ⟨?_, fun answer left answered => ?_⟩
  · rintro _ ⟨⟩ same
    exact unended same
  · rcases answered with ⟨rfl, fades⟩
    have fresh : launched = id → left.Unended := by
      intro same
      refine Knowledge.Unended.fades ?_ fades
      simp only [Knowledge.learn]
      rw [if_pos (show (Instance.fresh launched definition data runner.now).id = id from same)]
      rintro _ ⟨⟩
      rfl
    refine careful_log fun left fades => careful_emit_bind fun other fadesOn => ?_
    exact careful_map.mpr (run_careful fun same => ((fresh same).fades fades).fades fadesOn)

theorem newId_careful {named : Option String} {next : String → Proc α}
    (careful : ∀ chosen left, (next chosen).Careful id left) :
    ((Runner.newId named).bind next).Careful id knowledge := by
  rcases newId_eq named with fresh | ⟨chosen, given⟩
  · rw [fresh]
    exact ⟨fun inst same => (by cases same), fun chosen left _ => careful chosen left⟩
  · rw [given]
    exact careful chosen knowledge

theorem start_careful {named : Option String} {source : Definition.Source} {context : Value} :
    (runner.start named source context).Careful id knowledge := by
  simp only [Runner.start, Runner.readDefinition]
  simp only [Proc.bind_eq, Proc.bind_assoc]
  apply careful_logWarnings
  intro left fades
  simp only [Proc.pure_eq, Proc.done_bind]
  cases Definition.parse source with
  | error failure => exact careful_done
  | ok definition =>
      refine newId_careful fun chosen known => ⟨fun inst same => (by cases same), ?_⟩
      rintro answer left ⟨admits, fades⟩
      match answer with
      | .error failure => exact careful_done
      | .ok true => exact careful_load (fun _ _ => careful_done) fun _ _ _ => careful_done
      | .ok false =>
          simp only [Proc.done_bind]
          cases initialData context with
          | error failure => exact careful_done
          | ok data =>
              refine launch_careful fun same => Knowledge.Unended.fades ?_ fades
              cases known with
              | stale => trivial
              | sure record =>
                  -- the call has just been told that the store has no such instance
                  rintro stored rfl
                  cases admits same _ rfl

/-- Every call of an engine is careful, whatever it knows when it begins. -/
theorem EngineCall.careful (call : EngineCall) : (call.proc runner).Careful id knowledge := by
  cases call with
  | start named source context => exact careful_map.mpr start_careful
  | resume resumed => exact careful_map.mpr resume_careful
  | cancel cancelled reason =>
      refine careful_map.mpr (moveStored_careful fun inst => ?_)
      split <;> rfl
  | pause paused => exact careful_map.mpr (moveStored_careful fun inst => rfl)
  | delete deleted =>
      refine ⟨fun inst same => (by cases same), fun answer left _ => ?_⟩
      match answer with
      | .error failure => exact careful_done
      | .ok true => exact careful_done
      | .ok false => exact careful_done

end Calls

/-! ## Situations -/

section Situations

variable {σ : Type} (records : Records σ)

/-- A call under way is careful, and as long as it was not overtaken it knows the record. -/
def Call.Sound (id : String) (state : σ) (call : Call) : Prop :=
  call.rest.Careful id .stale ∧
    (call.overtaken = false → call.rest.Careful id (.sure (records.record? state id)))

variable {records} {id : String}

/-- The answers of a store agree with what it holds, and so does what is learned from them. -/
theorem admits_reply {others : (request : Request) → request.Answer} {request : Request} {state : σ}
    {knowledge : Knowledge}
    (sure : ∀ record, knowledge = .sure record → record = records.record? state id) :
    knowledge.Admits id request (records.reply others request state).1 := by
  cases request with
  | save inst => rfl
  | load loaded =>
      intro stored found
      have held := (records.load_eq_ok).mp found
      refine ⟨records.id_of_record? held, fun same record known => ?_⟩
      rw [sure record known, ← same]
      exact held
  | contains asked =>
      intro same record known
      rw [sure record known, ← same]
      rfl
  | _ => trivial

theorem learn_sure {others : (request : Request) → request.Answer} {request : Request} {state : σ} :
    (Knowledge.sure (records.record? state id)).learn id request
        (records.reply others request state).1 =
      .sure (records.record? (records.reply others request state).2 id) := by
  cases request with
  | save inst =>
      simp only [Knowledge.learn, Records.reply, records.record?_save]
      split <;> rfl
  | remove removed =>
      simp only [Knowledge.learn, Records.reply, records.record?_remove]
      split <;> rfl
  | load loaded =>
      simp only [Records.reply]
      cases records.load state loaded <;> rfl
  | _ => rfl

/-- A call that is told for good what became of a record knows it. -/
theorem learn_stale {others : (request : Request) → request.Answer} {request : Request} {state : σ}
    (settled : settles id request (records.reply others request state).1 = true) :
    Knowledge.stale.learn id request (records.reply others request state).1 =
      .sure (records.record? (records.reply others request state).2 id) := by
  cases request with
  | save inst =>
      have same : inst.id = id := by simpa [settles, alters] using settled
      simp only [Knowledge.learn, Records.reply, records.record?_save, if_pos same]
  | remove removed =>
      have same : removed = id := by simpa [settles, alters] using settled
      simp only [Knowledge.learn, Records.reply, records.record?_remove, if_pos same]
  | load loaded =>
      simp only [Records.reply] at settled ⊢
      simp only [Records.load] at settled ⊢
      cases held : records.record? state loaded with
      | none => simp [held, settles, alters] at settled
      | some stored =>
          have told : loaded = id ∧ stored.state = .cancelled := by
            simpa [held, settles] using settled
          simp only [Knowledge.learn, if_pos told]
          rw [← told.1, held]
  | _ => cases settled

theorem sound_next {others : (request : Request) → request.Answer} {request : Request}
    {next : request.Answer → Proc (Except Failure Unit)} {overtaken : Bool} {state : σ}
    (sound : Call.Sound records id state ⟨.ask request next, overtaken⟩) :
    Call.Sound records id (records.reply others request state).2
      ⟨next (records.reply others request state).1,
        overtaken && !settles id request (records.reply others request state).1⟩ := by
  rcases sound with ⟨stale, sure⟩
  have admitsStale : Knowledge.stale.Admits id request (records.reply others request state).1 :=
    admits_reply (by simp)
  refine ⟨(stale.2 _ _ ⟨admitsStale, .inr rfl⟩), fun current => ?_⟩
  cases overtaken with
  | false =>
      have admits : (Knowledge.sure (records.record? state id)).Admits id request
          (records.reply others request state).1 := by
        apply admits_reply
        rintro _ ⟨⟩
        rfl
      exact (sure rfl).2 _ _ ⟨admits, .inl learn_sure.symm⟩
  | true =>
      have settled : settles id request (records.reply others request state).1 = true := by
        simpa using current
      exact stale.2 _ _ ⟨admitsStale, .inl (learn_stale settled).symm⟩

/-- Every call is sound, and stays so. -/
theorem sound_invariant (records : Records σ) (id : String) :
    Situation.Invariant records id (fun _ => True) (fun _ => True) (Call.Sound records id) where
  begins runner call _ _ := ⟨call.careful, fun _ => call.careful⟩
  turns others _ sound := ⟨trivial, sound_next sound⟩
  bystands := by
    intro state request next overtaken call others _ _ sound
    refine ⟨sound.1, fun current => ?_⟩
    rcases Bool.or_eq_false_iff.mp current with ⟨current, unaltered⟩
    rw [record?_reply unaltered]
    exact sound.2 current

end Situations

/-! ## A run that is resumed within -/

/-- Answers of surroundings in which every action gives the same reply. -/
def Reply.everywhere (reply : Reply) (request : Request) : request.Answer :=
  (MemoryStore.records.serve { perform := fun _ store => (.ok reply, store) } request .empty).1

/-- While a run performs its action, the instance is resumed and completed; then the action gives no
result, and the first run goes on until it is about to save that it failed. -/
def resumedWithin : List Moment :=
  let succeeding := (Reply.result (.succeed [])).everywhere
  let source := Definition.Source.document Definition.reversibleDocument
  .begins .plain (.start (some "w") source .null) :: List.replicate 10 (.turn 0 succeeding) ++
    .begins .plain (.resume "w") :: List.replicate 14 (.turn 1 succeeding) ++
    List.replicate 7 (.turn 0 (Reply.other .null).everywhere)

/-- The situation after `resumedWithin`. -/
def overwriting : Situation MemoryStore :=
  .play MemoryStore.records "w" ⟨.empty, []⟩ resumedWithin

/-- The turn of the first run. -/
def overwrites : Moment :=
  .turn 0 (Reply.other .null).everywhere

theorem overwriting_saves :
    ∃ call inst stored, overwriting.saving? overwrites = some (call, inst) ∧ inst.id = "w" ∧
      inst.state = .failed ∧ MemoryStore.records.record? overwriting.state "w" = some stored ∧
      stored.state = .completed := by
  have states :
      (overwriting.saving? overwrites).map (fun saving => (saving.2.id, saving.2.state)) =
          some ("w", .failed) ∧
        (MemoryStore.records.record? overwriting.state "w").map (·.state) = some .completed := by
    decide +kernel
  rcases Option.map_eq_some_iff.mp states.1 with ⟨⟨call, inst⟩, saves, same⟩
  rcases Option.map_eq_some_iff.mp states.2 with ⟨stored, held, completed⟩
  rcases Prod.mk.inj same with ⟨sameId, failed⟩
  exact ⟨call, inst, stored, saves, sameId, failed, held, completed⟩

/-! ## Ended records and later saves -/

/-- However calls are interleaved, an instance whose record has ended is saved by no call but one
that was overtaken: that began before another one changed the record, and that has neither changed
it since nor found it cancelled. -/
theorem overtaken_of_saves_ended {σ : Type} (records : Records σ) (id : String) (start : σ)
    (schedule : List Moment) (moment : Moment) {call : Call} {inst stored : Instance}
    (saves : (Situation.play records id ⟨start, []⟩ schedule).saving? moment = some (call, inst))
    (same : inst.id = id)
    (held : records.record? (Situation.play records id ⟨start, []⟩ schedule).state id = some stored)
    (ended : stored.state.isTerminal = true) : call.overtaken = true := by
  obtain ⟨_, sound⟩ :=
    (sound_invariant records id).play ⟨start, []⟩ schedule (by simp) trivial (by simp)
  cases moment with
  | begins runner begun => cases saves
  | turn caller others =>
      unfold Situation.saving? at saves
      simp only at saves
      split at saves
      · next saved next overtaken turns =>
          cases saves
          cases overtaken with
          | true => rfl
          | false =>
              have careful := (sound _ (List.mem_of_getElem? turns)).2 rfl
              have active := careful.1 inst rfl same stored held
              simp [active] at ended
      · cases saves

theorem overtaken_of_overwriting :
    ∃ call inst stored, overwriting.saving? overwrites = some (call, inst) ∧ inst.id = "w" ∧
      MemoryStore.records.record? overwriting.state "w" = some stored ∧
      stored.state.isTerminal = true ∧ call.overtaken = true := by
  rcases overwriting_saves with ⟨call, inst, stored, saves, same, failed, held, completed⟩
  have ended : stored.state.isTerminal = true := by rw [completed]; rfl
  exact ⟨call, inst, stored, saves, same, held, ended,
    overtaken_of_saves_ended MemoryStore.records "w" .empty resumedWithin overwrites saves same
      held ended⟩

/-- An ended record does not stay as it is whatever calls are made. -/
theorem not_absorbing :
    ¬ ∀ (schedule : List Moment) (moment : Moment) (call : Call) (inst stored : Instance),
      (Situation.play MemoryStore.records "w" ⟨.empty, []⟩ schedule).saving? moment =
          some (call, inst) →
        inst.id = "w" →
        MemoryStore.records.record?
            (Situation.play MemoryStore.records "w" ⟨.empty, []⟩ schedule).state "w" = some stored →
          stored.state.isTerminal = true → inst.state = stored.state := by
  intro absorbing
  rcases overwriting_saves with ⟨call, inst, stored, saves, same, failed, held, completed⟩
  have kept := absorbing resumedWithin overwrites call inst stored saves same held
    (by rw [completed]; rfl)
  rw [failed, completed] at kept
  cases kept

end Workflow
