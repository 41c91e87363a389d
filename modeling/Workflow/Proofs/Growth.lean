import Workflow.Proofs.Interruption

/-!
# Work that grows

A run saves what it has done on top of what it found: the completed and skipped steps and the keys
of the data stay where they are, and more may come after them.  A call that cancels or pauses an
instance saves all of the work that it loaded.  Both are followed request by request, from what
the call was answered.
-/

namespace Workflow

/-! ## Work that grows -/

/-- An instance has the completed and skipped steps and the data keys of an earlier one, in their
order, and perhaps more after them. -/
structure Instance.Extends (inst earlier : Instance) : Prop where
  completed : earlier.completed <+: inst.completed
  skipped : earlier.skipped <+: inst.skipped
  keys : earlier.data.map Prod.fst <+: inst.data.map Prod.fst

namespace Instance

variable {inst other last : Instance}

theorem Extends.of_eq (completed : inst.completed = other.completed)
    (skipped : inst.skipped = other.skipped) (data : inst.data = other.data) :
    inst.Extends other :=
  ⟨completed ▸ List.prefix_rfl, skipped ▸ List.prefix_rfl, data ▸ List.prefix_rfl⟩

@[refl] theorem Extends.refl (inst : Instance) : inst.Extends inst :=
  .of_eq rfl rfl rfl

theorem Extends.trans (later : last.Extends inst) (earlier : inst.Extends other) :
    last.Extends other :=
  ⟨earlier.completed.trans later.completed, earlier.skipped.trans later.skipped,
    earlier.keys.trans later.keys⟩

/-- An instance grew out of an earlier one: it also has the failures of that one before its own, and
is an instance of the same definition that was created at the same time. -/
structure Accrues (inst earlier : Instance) : Prop extends inst.Extends earlier where
  id_eq : inst.id = earlier.id
  definition_eq : inst.definition = earlier.definition
  createdAt_eq : inst.createdAt = earlier.createdAt
  failures : earlier.failures <+: inst.failures

theorem Accrues.trans (later : last.Accrues inst) (earlier : inst.Accrues other) :
    last.Accrues other :=
  ⟨later.toExtends.trans earlier.toExtends, later.id_eq.trans earlier.id_eq,
    later.definition_eq.trans earlier.definition_eq, later.createdAt_eq.trans earlier.createdAt_eq,
    earlier.failures.trans later.failures⟩

theorem SameWork.symm (same : inst.SameWork other) : other.SameWork inst := by
  rw [SameWork] at same ⊢
  rw [same]

theorem SameWork.extends (same : inst.SameWork other) : inst.Extends other := by
  rw [same]
  exact .of_eq rfl rfl rfl

theorem SameWork.accrues (same : inst.SameWork other) : inst.Accrues other := by
  rw [same]
  exact ⟨.of_eq rfl rfl rfl, rfl, rfl, rfl, List.prefix_rfl⟩

@[refl] theorem Accrues.refl (inst : Instance) : inst.Accrues inst :=
  (SameWork.refl inst).accrues

end Instance

namespace Dict

theorem keys_insert (entries : Dict) (key : Scalar) (value : Value) :
    entries.map Prod.fst <+: (entries.insert key value).map Prod.fst := by
  induction entries with
  | nil => exact List.nil_prefix
  | cons entry rest ih =>
      rcases entry with ⟨other, old⟩
      simp only [insert]
      split
      · exact List.prefix_rfl
      · exact List.cons_prefix_cons.mpr ⟨rfl, ih⟩

/-- Putting entries into a mapping keeps its keys where they are. -/
theorem keys_overlay (entries later : Dict) :
    entries.map Prod.fst <+: (entries.overlay later).map Prod.fst := by
  unfold overlay
  induction later generalizing entries with
  | nil => exact List.prefix_rfl
  | cons entry rest ih => exact (keys_insert entries entry.1 entry.2).trans (ih _)

end Dict

namespace Phase

variable {runner : Runner}

/-- The instance that a run has in a phase: the one it was called for or the one it works on. -/
def Has (phase : Phase) (inst : Instance) : Prop :=
  phase = .idle inst ∨ phase.worked? = some inst

/-- What a run saves grew out of what it has, and its state is the same or moved as it may. -/
theorem Saves.accrues {phase kept : Phase} {saved : Instance} {lost : Failure → Phase}
    (saves : Saves runner phase saved kept lost) :
    ∃ inst, phase.Has inst ∧ saved.Accrues inst ∧
      (saved.state = inst.state ∨ inst.state.canMoveTo saved.state = true) := by
  cases saves with
  | start _ _ starts =>
      rcases Instance.transitionTo_eq_ok.mp starts with ⟨moves, rfl⟩
      exact ⟨_, .inl rfl, ⟨.of_eq rfl rfl rfl, rfl, rfl, rfl, List.prefix_rfl⟩, .inr moves⟩
  | enter _ moves | leave moves =>
      rcases Instance.setCurrentStep_eq_ok.mp moves with ⟨_, rfl⟩
      exact ⟨_, .inr rfl, ⟨.of_eq rfl rfl rfl, rfl, rfl, rfl, List.prefix_rfl⟩, .inl rfl⟩
  | complete completes =>
      rcases Instance.transitionTo_eq_ok.mp completes with ⟨moves, rfl⟩
      exact ⟨_, .inr rfl, ⟨.of_eq rfl rfl rfl, rfl, rfl, rfl, List.prefix_rfl⟩, .inr moves⟩
  | fail fails | abort fails =>
      rcases Instance.fail_eq_ok.mp fails with ⟨moves, rfl⟩
      exact ⟨_, .inr rfl, ⟨.of_eq rfl rfl rfl, rfl, rfl, rfl, List.prefix_rfl⟩, .inr moves⟩

theorem Saves.extends {phase kept : Phase} {saved : Instance} {lost : Failure → Phase}
    (saves : Saves runner phase saved kept lost) :
    ∃ inst, phase.Has inst ∧ saved.id = inst.id ∧ saved.Extends inst := by
  rcases saves.accrues with ⟨inst, has, accrues, _⟩
  exact ⟨inst, has, accrues.id_eq, accrues.toExtends⟩

/-- After a save a run has what it saved, if it goes on at all. -/
theorem Saves.kept_has {phase kept : Phase} {saved inst : Instance} {lost : Failure → Phase}
    (saves : Saves runner phase saved kept lost) (has : kept.Has inst) : inst = saved := by
  cases saves with
  | start | enter | leave | complete | fail | abort =>
      rcases has with ⟨⟨⟩⟩ | ⟨⟨⟩⟩
      all_goals rfl

/-- While a run goes on by itself, what it has only grows, in the same state. -/
theorem Shifts.accrues {phase after : Phase} {inst : Instance} (shifts : Shifts runner phase after)
    (has : after.Has inst) :
    ∃ earlier, phase.Has earlier ∧ inst.Accrues earlier ∧ inst.state = earlier.state := by
  cases shifts with
  | merged merges marks =>
      rcases Instance.mergeData_eq_ok.mp merges with ⟨_, rfl⟩
      rcases Instance.markCompleted_eq_ok.mp marks with ⟨_, rfl⟩
      rcases has with ⟨⟨⟩⟩ | ⟨⟨⟩⟩
      exact ⟨_, .inr rfl, ⟨⟨List.prefix_append _ _, List.prefix_rfl, Dict.keys_overlay _ _⟩, rfl,
        rfl, rfl, List.prefix_rfl⟩, rfl⟩
  | skipped _ _ skips =>
      rcases Instance.markSkipped_eq_ok.mp skips with ⟨_, rfl⟩
      rcases has with ⟨⟨⟩⟩ | ⟨⟨⟩⟩
      exact ⟨_, .inr rfl, ⟨⟨List.prefix_rfl, List.prefix_append _ _, List.prefix_rfl⟩, rfl, rfl,
        rfl, List.prefix_rfl⟩, rfl⟩
  | marked marks =>
      rcases Instance.markFailed_eq_ok.mp marks with ⟨_, rfl⟩
      rcases has with ⟨⟨⟩⟩ | ⟨⟨⟩⟩
      exact ⟨_, .inr rfl, ⟨.of_eq rfl rfl rfl, rfl, rfl, rfl, List.prefix_append _ _⟩, rfl⟩
  | resume =>
      rcases has with ⟨⟨⟩⟩ | ⟨⟨⟩⟩
      exact ⟨_, .inl rfl, .refl _, rfl⟩
  | _ =>
      rcases has with ⟨⟨⟩⟩ | ⟨⟨⟩⟩
      all_goals exact ⟨_, .inr rfl, .refl _, rfl⟩

theorem Shifts.extends {phase after : Phase} {inst : Instance} (shifts : Shifts runner phase after)
    (has : after.Has inst) : ∃ earlier, phase.Has earlier ∧ inst.id = earlier.id ∧
      inst.Extends earlier := by
  rcases shifts.accrues has with ⟨earlier, had, accrues, _⟩
  exact ⟨earlier, had, accrues.id_eq, accrues.toExtends⟩

end Phase

/-! ## What a run goes on from -/

/-- What is known of the record that a run goes on from. -/
inductive Basis where
  /-- The run has not asked for it yet. -/
  | unknown
  /-- The run was told that there is none. -/
  | absent
  /-- The run has loaded the instance, or saved it. -/
  | work (inst : Instance)

namespace Basis

variable (id : String)

/-- What a run goes on from after a request. -/
def learn : (request : Request) → request.Answer → Basis → Basis
  | .save inst, _, basis => if inst.id = id then .work inst else basis
  | .load loaded, .ok stored, .unknown => if loaded = id then .work stored else .unknown
  | .contains asked, .ok false, .unknown => if asked = id then .absent else .unknown
  | _, _, basis => basis

/-- Whether a store that does not fail may give an answer. -/
def Admits : (request : Request) → request.Answer → Prop
  | .save _, answer => answer = .ok ()
  | .load loaded, answer => ∀ stored, answer = .ok stored → stored.id = loaded
  | _, _ => True

/-- The world of a store that does not fail, as far as a run goes on from what it answers. -/
def world : World Basis :=
  fun request basis answer after => Admits request answer ∧ after = basis.learn id request answer

/-- An instance goes on from a basis. -/
def Precedes (inst : Instance) : Basis → Prop
  | .unknown => False
  | .absent => True
  | .work earlier => inst.Extends earlier

/-- A request changes the record by saving what goes on from a basis, or not at all. -/
def Allows (basis : Basis) (request : Request) : Prop :=
  alters id request = true → ∃ inst, request = .save inst ∧ basis.Precedes inst

end Basis

/-- A procedure changes the record of an id only by saving what goes on from a basis. -/
def Proc.Grows {α : Type} (id : String) (proc : Proc α) (basis : Basis) : Prop :=
  proc.Keeps (Basis.world id) (fun request basis => basis.Allows id request) (fun _ _ => True) basis

namespace Phase

/-- What a run has goes on from its basis. -/
def Grows (id : String) (basis : Basis) (phase : Phase) : Prop :=
  ∀ inst, phase.Has inst → inst.id = id → ∃ work, basis = .work work ∧ inst.Extends work

end Phase

section Runs

variable {runner : Runner} {id : String} {basis : Basis}

theorem grows_of_has {phase after : Phase} (grows : phase.Grows id basis)
    (had : ∀ inst, after.Has inst → phase.Has inst) : after.Grows id basis :=
  fun inst has => grows inst (had inst has)

theorem Phase.Acts.has {phase after : Phase} {request : Request} {answer : request.Answer}
    {inst : Instance} (acts : Phase.Acts runner phase request answer after) (has : after.Has inst) :
    phase.Has inst := by
  rcases acts.worked?_eq with ⟨worked, before, works⟩
  rcases has with begun | has
  · exact absurd begun (acts.follows.begun inst)
  · rw [works] at has
    exact .inr (before.trans has)

theorem Phase.Emits.has {phase after : Phase} {event : Event} {inst : Instance}
    (emits : Phase.Emits runner phase event after) (has : after.Has inst) : phase.Has inst := by
  rcases has with begun | has
  · exact absurd begun (emits.follows.begun inst)
  · rcases emits.worked?_eq with ⟨result, rfl⟩ | ⟨worked, before, works⟩
    · cases has
    · rw [works] at has
      exact .inr (before.trans has)

theorem Phase.Looks.has {phase onward : Phase} {inst other : Instance} {interruption : Interruption}
    (looks : Phase.Looks phase inst onward)
    (has : (Phase.afterLook inst onward interruption).Has other) :
    phase.Has other ∧ other = inst := by
  rcases looks.worked?_eq with ⟨before, worked⟩
  rcases has with begun | has
  · exact absurd begun ((looks.follows interruption).begun other)
  · have same := worked?_of_afterLook worked has
    rw [same]
    exact ⟨.inr before, rfl⟩

/-- Runs grow: a run saves only what extends its basis, and goes on from what it saved. -/
theorem grows_invariant :
    runner.protocol.Invariant (Basis.world id) fun _ phase basis => phase.Grows id basis where
  shift := by
    intro _ phase basis after grows shifts inst has same
    rcases shifts.extends has with ⟨earlier, had, sameId, growing⟩
    rcases grows earlier had (sameId.symm.trans same) with ⟨work, known, grown⟩
    exact ⟨work, known, growing.trans grown⟩
  move := by
    intro _ phase basis request answer after final grows moves answered
    rcases answered with ⟨admits, rfl⟩
    cases moves with
    | log => exact grows
    | keep saves =>
        intro inst has same
        cases saves.kept_has has
        exact ⟨_, if_pos same, .refl _⟩
    | lose saves => cases admits
    | @look _ _ loaded looks =>
        intro inst has same
        rcases looks.has has with ⟨had, rfl⟩
        rcases grows inst had same with ⟨work, rfl, grown⟩
        refine ⟨work, ?_, grown⟩
        cases loaded <;> rfl
    | emit emits => exact grows_of_has grows fun inst => emits.has
    | act acts =>
        have learns : basis.learn id request answer = basis := by
          cases acts <;> rfl
        rw [learns]
        exact grows_of_has grows fun inst => acts.has

theorem allows_of_saves {phase kept : Phase} {saved : Instance} {lost : Failure → Phase}
    (grows : phase.Grows id basis) (saves : phase.Saves runner saved kept lost) :
    basis.Allows id (.save saved) := by
  intro same
  rcases saves.extends with ⟨inst, has, sameId, growing⟩
  rcases grows inst has (sameId.symm.trans (eq_of_beq same)) with ⟨work, rfl, grown⟩
  exact ⟨saved, rfl, growing.trans grown⟩

theorem run_grows {inst : Instance}
    (known : inst.id = id → ∃ work, basis = .work work ∧ inst.Extends work) :
    (runner.run inst).Grows id basis := by
  have start : (Phase.idle inst).Grows id basis := by
    rintro _ (⟨⟨⟩⟩ | ⟨⟨⟩⟩) same
    exact known same
  refine grows_invariant.keeps ?_ (fun _ _ => trivial) (run_governed inst) [] start
  intro _ phase basis request grows moves altering
  cases request with
  | save saved =>
      rcases moves (.ok ()) with ⟨after, moves⟩
      cases moves with
      | keep saves => exact allows_of_saves grows saves altering
      | act acts => cases acts
  | remove removed =>
      rcases moves (.ok true) with ⟨after, moves⟩
      cases moves with
      | act acts => cases acts
  | _ => cases altering

/-! ## Calls that run an instance -/

theorem grows_map {α β : Type} {proc : Proc α} {change : α → β} :
    (change <$> proc).Grows id basis ↔ proc.Grows id basis :=
  Proc.keeps_bind

theorem grows_done {α : Type} {value : α} : (Proc.done value).Grows id basis :=
  trivial

theorem grows_log {α : Type} {level : Level} {message : String} {next : Unit → Proc α}
    (grows : (next ()).Grows id basis) : ((Proc.log level message).bind next).Grows id basis := by
  refine ⟨fun altering => (by cases altering), fun _ after answered => ?_⟩
  rcases answered with ⟨_, rfl⟩
  exact grows

theorem grows_emit {α : Type} {event : Event} {next : Unit → Proc α}
    (grows : (next ()).Grows id basis) : ((Proc.emit event).bind next).Grows id basis := by
  refine ⟨fun altering => (by cases altering), fun delivered after answered => ?_⟩
  rcases answered with ⟨_, rfl⟩
  cases delivered with
  | true => exact grows
  | false => exact grows_log grows

theorem grows_logWarnings {α : Type} {warnings : List String} {next : Unit → Proc α}
    (grows : (next ()).Grows id basis) : ((logWarnings warnings).bind next).Grows id basis :=
  logWarnings_bind (Proc.Grows id · basis) (fun _ => grows_log) grows

theorem resume_grows {resumed : String} : (runner.resume resumed).Grows id .unknown := by
  refine ⟨fun altering => (by cases altering), fun answer after answered => ?_⟩
  rcases answered with ⟨admits, rfl⟩
  cases answer with
  | error failure => exact grows_done
  | ok stored =>
      simp only [Proc.done_bind]
      split
      · exact grows_done
      · refine grows_log (run_grows fun same => ⟨stored, ?_, .refl stored⟩)
        exact if_pos ((admits stored rfl).symm.trans same)

theorem launch_grows {launched : String} {definition : Definition} {data : Dict}
    (known : launched = id → basis = .absent) :
    (runner.launch launched definition data).Grows id basis := by
  refine ⟨fun altering => ?_, fun answer after answered => ?_⟩
  · rw [known (eq_of_beq altering)]
    exact ⟨_, rfl, trivial⟩
  · rcases answered with ⟨rfl, rfl⟩
    refine grows_log (grows_emit (grows_map.mpr (run_grows fun same => ?_)))
    exact ⟨_, if_pos same, .refl _⟩

theorem newId_grows {α : Type} {named : Option String} {next : String → Proc α}
    (grows : ∀ chosen, (next chosen).Grows id basis) :
    ((Runner.newId named).bind next).Grows id basis := by
  rcases newId_eq named with fresh | ⟨chosen, given⟩
  · rw [fresh]
    refine ⟨fun altering => (by cases altering), ?_⟩
    rintro chosen _ ⟨_, rfl⟩
    exact grows chosen
  · rw [given]
    exact grows chosen

theorem start_grows {named : Option String} {source : Definition.Source} {context : Value} :
    (runner.start named source context).Grows id .unknown := by
  simp only [Runner.start, Runner.readDefinition]
  simp only [Proc.bind_eq, Proc.bind_assoc]
  apply grows_logWarnings
  simp only [Proc.pure_eq, Proc.done_bind]
  cases Definition.parse source with
  | error failure => exact grows_done
  | ok definition =>
      refine newId_grows fun chosen => ⟨fun altering => (by cases altering), ?_⟩
      rintro answer _ ⟨_, rfl⟩
      cases answer with
      | error failure => exact grows_done
      | ok taken =>
          cases taken with
          | true =>
              refine ⟨fun altering => (by cases altering), fun answer _ _ => ?_⟩
              cases answer <;> exact grows_done
          | false =>
              simp only [Proc.done_bind]
              cases initialData context with
              | error failure => exact grows_done
              | ok data => exact launch_grows fun same => if_pos same

/-- Whether a call runs an instance. -/
def EngineCall.Runs : EngineCall → Prop
  | .start _ _ _ | .resume _ => True
  | _ => False

theorem EngineCall.proc_grows {call : EngineCall} (runs : call.Runs) :
    (call.proc runner).Grows id .unknown := by
  cases call with
  | start named source context => exact grows_map.mpr start_grows
  | resume resumed => exact grows_map.mpr resume_grows
  | cancel | pause | delete => cases runs

end Runs

/-! ## Calls that cancel or pause an instance -/

/-- The world of a store that does not fail, with the instance that was loaded under an id. -/
def copyWorld (id : String) : World (Option Instance)
  | .load loaded, seen, answer, after =>
    (∀ stored, answer = .ok stored → stored.id = loaded) ∧
      after = if loaded = id then answer.toOption else seen
  | _, seen, _, after => after = seen

/-- What changes the record of an id saves it with the work that was loaded. -/
def Request.Copies (request : Request) (id : String) (seen : Option Instance) : Prop :=
  alters id request = true → ∃ inst loaded, request = .save inst ∧ seen = some loaded ∧
    inst.SameWork loaded

/-- A procedure changes the record of an id only by saving the work that it has loaded. -/
def Proc.Copies {α : Type} (id : String) (proc : Proc α) (seen : Option Instance) : Prop :=
  proc.Keeps (copyWorld id) (fun request seen => request.Copies id seen) (fun _ _ => True) seen

section Copies

variable {runner : Runner} {id : String} {seen : Option Instance}

theorem copies_log {α : Type} {level : Level} {message : String} {next : Unit → Proc α}
    (copies : (next ()).Copies id seen) : ((Proc.log level message).bind next).Copies id seen := by
  refine ⟨fun altering => (by cases altering), fun _ after answered => ?_⟩
  cases answered
  exact copies

theorem copies_emit {α : Type} {event : Event} {next : Unit → Proc α}
    (copies : (next ()).Copies id seen) : ((Proc.emit event).bind next).Copies id seen := by
  refine ⟨fun altering => (by cases altering), fun delivered after answered => ?_⟩
  cases answered
  cases delivered with
  | true => exact copies
  | false => exact copies_log copies

theorem moveStored_copies {target : State} {amend : Instance → Instance}
    {line : Instance → String} {body : Instance → Except Failure EventBody}
    (amends : ∀ inst, (amend inst).SameWork inst) :
    (runner.moveStored id target amend line body).Copies id seen := by
  refine ⟨fun altering => (by cases altering), fun answer found answered => ?_⟩
  rcases answered with ⟨_, rfl⟩
  cases answer with
  | error failure => trivial
  | ok stored =>
      simp only [Proc.done_bind]
      cases moves : stored.transitionTo target runner.now with
      | error error => trivial
      | ok changed =>
          rcases Instance.transitionTo_eq_ok.mp moves with ⟨_, rfl⟩
          refine ⟨fun _ => ⟨_, stored, rfl, if_pos trivial, (amends _).trans rfl⟩, ?_⟩
          rintro kept _ rfl
          cases kept with
          | error failure => trivial
          | ok _ =>
              apply copies_log
              cases body _ with
              | error failure => trivial
              | ok body => exact copies_emit trivial

theorem EngineCall.proc_copies {call : EngineCall} (halts : call.Halts id) :
    (call.proc runner).Copies id seen := by
  cases call with
  | cancel halted reason =>
      cases halts
      refine Proc.keeps_bind.mpr ((moveStored_copies fun inst => ?_).mono fun _ _ _ => trivial)
      split <;> rfl
  | pause halted =>
      cases halts
      exact Proc.keeps_bind.mpr ((moveStored_copies .refl).mono fun _ _ _ => trivial)
  | start | resume | delete => cases halts

end Copies

end Workflow
