import Workflow.Proofs.Absorption
import Workflow.Proofs.Failures
import Workflow.Proofs.Growth
import Workflow.Proofs.Rejection
import Workflow.Proofs.Selection

/-!
# Steps that are declared

A run finds the steps that it goes through in the definition: the entry, the targets of transitions
and the later steps are all declared, and so is the step that an instance was saved at.  So a run
does not come to a step that its definition lacks, and notes down no other steps than declared ones
beside those that it found noted down.  What the calls of engines save is what later calls load, and
all of it names declared steps.
-/

namespace Workflow

/-! ## Declared steps -/

/-- A value names a declared step of an instance. -/
def Instance.Declares (inst : Instance) (step : Value) : Prop :=
  ∃ id ∈ inst.definition.stepIds, step = .text id

/-- An instance of a definition that was read stands nowhere, or at a declared step. -/
structure Instance.Placed (inst : Instance) : Prop where
  read : inst.definition.IsRead
  current : inst.currentStep = .null ∨ inst.Declares inst.currentStep

/-- Something was noted down already when an instance with the same id and definition was given. -/
def Instance.Inherits {α : Type} (given : Instance → Prop) (inst : Instance)
    (notes : Instance → List α) (note : α) : Prop :=
  ∃ origin, given origin ∧ origin.id = inst.id ∧ origin.definition = inst.definition ∧
    note ∈ notes origin

/-- An instance names only declared steps, but for those that were noted down in the instances that
were given. -/
structure Instance.Names (given : Instance → Prop) (inst : Instance) : Prop
    extends Instance.Placed inst where
  completed : ∀ step ∈ inst.completed, inst.Declares step ∨ inst.Inherits given (·.completed) step
  skipped : ∀ step ∈ inst.skipped, inst.Declares step ∨ inst.Inherits given (·.skipped) step
  failures : ∀ failure ∈ inst.failures,
    inst.Declares (.text failure.step) ∨ inst.Inherits given (·.failures) failure

namespace Instance.Names

variable {given : Instance → Prop} {inst : Instance}

theorem of_given (placed : inst.Placed) (held : given inst) : inst.Names given where
  toPlaced := placed
  completed _ member := .inr ⟨inst, held, rfl, rfl, member⟩
  skipped _ member := .inr ⟨inst, held, rfl, rfl, member⟩
  failures _ member := .inr ⟨inst, held, rfl, rfl, member⟩

/-- What is done to an instance besides its steps does not matter. -/
theorem amended (names : inst.Names given) (state : State) (data : Dict) (errorMessage : Value)
    (updatedAt : Time.Timestamp) :
    ({ inst with state, data, errorMessage, updatedAt } : Instance).Names given :=
  ⟨⟨names.read, names.current⟩, names.completed, names.skipped, names.failures⟩

theorem entered (names : inst.Names given) {key : String}
    (declared : key ∈ inst.definition.stepIds) (updatedAt : Time.Timestamp) :
    ({ inst with currentStep := .text key, updatedAt } : Instance).Names given :=
  ⟨⟨names.read, .inr ⟨key, declared, rfl⟩⟩, names.completed, names.skipped, names.failures⟩

theorem completing (names : inst.Names given) {key : String}
    (declared : key ∈ inst.definition.stepIds) (data : Dict) (updatedAt : Time.Timestamp) :
    ({ inst with data, completed := inst.completed ++ [.text key], updatedAt } :
      Instance).Names given := by
  refine ⟨⟨names.read, names.current⟩, ?_, names.skipped, names.failures⟩
  refine List.forall_mem_append.mpr ⟨names.completed, ?_⟩
  exact List.forall_mem_singleton.mpr (.inl ⟨key, declared, rfl⟩)

theorem skipping (names : inst.Names given) {key : String}
    (declared : key ∈ inst.definition.stepIds) (updatedAt : Time.Timestamp) :
    ({ inst with skipped := inst.skipped ++ [.text key], updatedAt } : Instance).Names given := by
  refine ⟨⟨names.read, names.current⟩, names.completed, ?_, names.failures⟩
  refine List.forall_mem_append.mpr ⟨names.skipped, ?_⟩
  exact List.forall_mem_singleton.mpr (.inl ⟨key, declared, rfl⟩)

theorem failing (names : inst.Names given) {key : String}
    (declared : key ∈ inst.definition.stepIds) (error : String) (failedAt : Time.Timestamp) :
    ({ inst with failures := inst.failures ++ [⟨key, error, failedAt⟩], updatedAt := failedAt } :
      Instance).Names given := by
  refine ⟨⟨names.read, names.current⟩, names.completed, names.skipped, ?_⟩
  refine List.forall_mem_append.mpr ⟨names.failures, ?_⟩
  exact List.forall_mem_singleton.mpr (.inl ⟨key, declared, rfl⟩)

theorem fresh {id : String} {definition : Definition} {data : Dict} {now : Time.Timestamp}
    (read : definition.IsRead) : (Instance.fresh id definition data now).Names given where
  read := read
  current := .inl rfl
  completed := by
    intro step member
    cases member
  skipped := by
    intro step member
    cases member
  failures := by
    intro failure member
    cases member

end Instance.Names

/-! ## The steps that a run goes to -/

section Steps

variable {inst : Instance} {key : String}

theorem entry_declared (read : inst.definition.IsRead) {step : Step}
    (enters : inst.definition.entry? = some step) : step.id ∈ inst.definition.stepIds := by
  obtain ⟨entry, member, found⟩ := Definition.exists_entry read.wellFormed.steps_ne_nil
  cases found.symm.trans enters
  rw [read.wellFormed.id_of_mem_steps entry member]
  exact List.mem_map_of_mem member

/-- A run begins with a declared step. -/
theorem firstStep?_declared (placed : inst.Placed) (starts : firstStep? inst = some key) :
    key ∈ inst.definition.stepIds := by
  have enters : ∀ {id}, inst.definition.entry?.map (·.id) = some id →
      id ∈ inst.definition.stepIds := by
    intro id found
    obtain ⟨step, entry, rfl⟩ := Option.map_eq_some_iff.mp found
    exact entry_declared placed.read entry
  unfold firstStep? at starts
  split at starts
  · next id stands =>
      split at starts
      · exact enters starts
      · cases starts
        cases placed.current with
        | inl null => cases stands.symm.trans null
        | inr declared =>
            obtain ⟨other, member, same⟩ := declared
            cases stands.symm.trans same
            exact member
  · exact enters starts

end Steps

/-! ## Runs -/

/-- Whether a failure says that the step that an instance stands at is not declared. -/
def Failure.isUnknownStep : Failure → Bool
  | .workflow (.evaluation (.unknownStep _ _)) => true
  | _ => false

theorem Failure.isUnknownStep_of_isOfData {failure : Failure} (ofData : failure.isOfData = true) :
    failure.isUnknownStep = false := by
  cases failure with
  | workflow error =>
      cases error with
      | evaluation error => cases error <;> first | rfl | cases ofData
      | _ => rfl
  | _ => rfl

/-- A step that is executed is declared, under its key and by its id. -/
structure Visit.Declared (visit : Visit) : Prop where
  key : visit.key ∈ visit.inst.definition.stepIds
  step : visit.step.id ∈ visit.inst.definition.stepIds

namespace Phase

/-- The steps that a run is busy with are declared. -/
def Declared : Phase → Prop
  | .loop _ inst key | .clear _ inst key | .processed _ inst key | .leaving _ inst key =>
    key ∈ inst.definition.stepIds
  | .visit entered | .succeeded entered _ | .recorded entered _ => entered.Declared
  | .making trial | .attempt trial | .permitted trial | .tried trial _ | .broken trial _
  | .reported trial _ | .waiting trial | .resting trial _ => trial.visit.Declared
  | .failing inst step _ => step.id ∈ inst.definition.stepIds
  | _ => True

/-- What holds of a run that does not come to a step that is not declared. -/
structure Sound (given : Instance → Prop) (phase : Phase) : Prop where
  names : ∀ inst, phase.Has inst → inst.Names given
  declared : phase.Declared
  spared : ∀ failure, phase.failure? = some failure → failure.isUnknownStep = false

end Phase

section Runs

variable {given : Instance → Prop} {runner : Runner} {phase after : Phase}

/-- A run that stands at a declared step makes no failure that the step is not declared. -/
theorem Phase.Arises.known {failure : Failure} (sound : phase.Sound given)
    (arises : phase.Arises runner failure) : failure.isUnknownStep = false := by
  cases arises with
  | unknownStep undeclared => exact absurd undeclared (Definition.exists_step? sound.declared)
  | ofData ofData => exact Failure.isUnknownStep_of_isOfData ofData
  | refused | frozen | noEntry | unregistered => rfl

theorem declared_shift (sound : phase.Sound given) (shifts : phase.Shifts runner after) :
    after.Declared := by
  cases shifts with
  | entry starts => exact firstStep?_declared (sound.names _ (.inr rfl)).toPlaced starts
  | chosen chooses =>
      have read := (sound.names _ (.inr rfl)).read
      exact (chosenStep_eq_ok.mp chooses).declared read.wellFormed
  | skipped _ _ skips =>
      obtain ⟨_, rfl⟩ := Instance.markSkipped_eq_ok.mp skips
      exact sound.declared.key
  | merged merges marks =>
      obtain ⟨_, rfl⟩ := Instance.mergeData_eq_ok.mp merges
      obtain ⟨_, rfl⟩ := Instance.markCompleted_eq_ok.mp marks
      exact ⟨sound.declared.key, sound.declared.step⟩
  | declined | exhausted => exact sound.declared.step
  | gate | ready | retry | unwaited => exact sound.declared
  | _ => trivial

theorem names_shift (sound : phase.Sound given) (shifts : phase.Shifts runner after) :
    ∀ inst, after.Has inst → inst.Names given := by
  intro inst has
  cases shifts with
  | skipped _ _ skips =>
      obtain ⟨_, rfl⟩ := Instance.markSkipped_eq_ok.mp skips
      obtain ⟨⟨⟩⟩ | ⟨⟨⟩⟩ := has
      exact (sound.names _ (.inr rfl)).skipping sound.declared.step _
  | merged merges marks =>
      obtain ⟨_, rfl⟩ := Instance.mergeData_eq_ok.mp merges
      obtain ⟨_, rfl⟩ := Instance.markCompleted_eq_ok.mp marks
      obtain ⟨⟨⟩⟩ | ⟨⟨⟩⟩ := has
      exact (sound.names _ (.inr rfl)).completing sound.declared.step _ _
  | marked marks =>
      obtain ⟨_, rfl⟩ := Instance.markFailed_eq_ok.mp marks
      obtain ⟨⟨⟩⟩ | ⟨⟨⟩⟩ := has
      exact (sound.names _ (.inr rfl)).failing sound.declared _ _
  | resume =>
      obtain ⟨⟨⟩⟩ | ⟨⟨⟩⟩ := has
      exact sound.names _ (.inl rfl)
  | _ =>
      obtain ⟨⟨⟩⟩ | ⟨⟨⟩⟩ := has
      all_goals exact sound.names _ (.inr rfl)

theorem sound_shift (sound : phase.Sound given) (shifts : phase.Shifts runner after) :
    after.Sound given where
  names := names_shift sound shifts
  declared := declared_shift sound shifts
  spared failure has := by
    cases shifts.failure_cases has with
    | inl before => exact sound.spared failure before
    | inr arises => exact arises.known sound

/-- What a run saves names declared steps, and so does what it goes on with, kept or not. -/
theorem sound_saves {saved : Instance} {kept : Phase} {lost : Failure → Phase}
    (sound : phase.Sound given) (saves : phase.Saves runner saved kept lost) :
    saved.Names given ∧ kept.Declared ∧ ∀ failure, (lost failure).Declared := by
  cases saves with
  | start _ _ starts =>
      obtain ⟨_, rfl⟩ := Instance.transitionTo_eq_ok.mp starts
      have names := sound.names _ (.inl rfl)
      exact ⟨names.amended _ _ _ _, trivial, fun _ => trivial⟩
  | enter found moves =>
      obtain ⟨_, rfl⟩ := Instance.setCurrentStep_eq_ok.mp moves
      have names := sound.names _ (.inr rfl)
      have keyed := Definition.Keyed.id_of_step? names.read.wellFormed.id_of_mem_steps found
      have declared := Definition.mem_stepIds_of_step? found
      refine ⟨names.entered sound.declared _, ⟨declared, ?_⟩, fun _ => trivial⟩
      exact keyed ▸ declared
  | leave moves =>
      obtain ⟨_, rfl⟩ := Instance.setCurrentStep_eq_ok.mp moves
      have names := sound.names _ (.inr rfl)
      exact ⟨names.entered sound.declared _, sound.declared, fun _ => trivial⟩
  | complete completes =>
      obtain ⟨_, rfl⟩ := Instance.transitionTo_eq_ok.mp completes
      have names := sound.names _ (.inr rfl)
      exact ⟨names.amended _ _ _ _, trivial, fun _ => trivial⟩
  | fail fails | abort fails =>
      obtain ⟨_, rfl⟩ := Instance.fail_eq_ok.mp fails
      have names := sound.names _ (.inr rfl)
      exact ⟨names.amended _ _ _ _, trivial, fun _ => trivial⟩

/-- After a save was refused a run has what it wanted to save, if it goes on at all. -/
theorem Phase.Saves.lost_has {kept : Phase} {saved inst : Instance} {lost : Failure → Phase}
    {failure : Failure} (saves : phase.Saves runner saved kept lost)
    (has : (lost failure).Has inst) : inst = saved := by
  cases saves with
  | start | enter | leave | complete | fail | abort =>
      rcases has with ⟨⟨⟩⟩ | ⟨⟨⟩⟩
      all_goals rfl

theorem declared_look {inst : Instance} {onward : Phase} {interruption : Interruption}
    (declared : phase.Declared) (looks : phase.Looks inst onward) :
    (Phase.afterLook inst onward interruption).Declared := by
  cases interruption with
  | none =>
      cases looks with
      | before => exact declared
      | @after trial outcome => cases outcome <;> exact declared
  | stopped | raised => trivial

theorem declared_emit {event : Event} (declared : phase.Declared)
    (emits : phase.Emits runner event after) : after.Declared := by
  cases emits with
  | stepFailed => exact declared
  | stepCompleted => exact declared.key
  | completed | failed | aborted => trivial

theorem declared_afterMake {trial : Trial} (declared : trial.visit.Declared)
    (answer : Except Failure Unit) : (Phase.afterMake trial answer).Declared := by
  unfold Phase.afterMake
  split
  · exact declared
  · trivial
  · exact declared.step

theorem declared_afterPermit {trial : Trial} (declared : trial.visit.Declared)
    (answer : Except Failure Bool) : (Phase.afterPermit trial answer).Declared := by
  unfold Phase.afterPermit
  split <;> exact declared

theorem declared_afterDraw {trial : Trial} (declared : trial.visit.Declared)
    (wait : Number.Binary64 → Except Fault Number.Binary64) (fraction : Number.Binary64) :
    (Phase.afterDraw trial wait fraction).Declared := by
  unfold Phase.afterDraw
  cases wait fraction with
  | ok seconds => exact declared
  | error fault => trivial

theorem declared_act {request : Request} {answer : request.Answer} (declared : phase.Declared)
    (acts : phase.Acts runner request answer after) : after.Declared := by
  cases acts with
  | make => exact declared_afterMake declared _
  | permit => exact declared_afterPermit declared _
  | perform => exact declared
  | draw => exact declared_afterDraw declared _ _
  | @rest _ _ answer =>
      cases answer with
      | ok _ => exact declared
      | error failure => trivial
  | @unmake _ _ _ _ _ _ answer => cases answer <;> trivial
  | undo => trivial

/-- What is known of answers when the instances that are loaded name declared steps. -/
def Recalls (given : Instance → Prop) : (request : Request) → request.Answer → Prop
  | .load _, .ok inst => inst.Names given
  | .contains _, .error failure | .load _, .error failure | .save _, .error failure
  | .remove _, .error failure | .sleep _, .error failure => failure.isUnknownStep = false
  | _, _ => True

/-- The world in which answers are such. -/
def recalling (given : Instance → Prop) : World Unit :=
  fun request _ answer _ => Recalls given request answer

theorem known_of_passed {request : Request} {answer : request.Answer} {failure : Failure}
    (recalls : Recalls given request answer) (passes : request.Passes answer failure) :
    failure.isUnknownStep = false := by
  cases passes with
  | load | save | sleep => exact recalls
  | make => rfl

/-- Runs are sound: a run comes to no step that is not declared. -/
theorem sound_run_invariant :
    runner.protocol.Invariant (recalling given) fun _ phase _ => phase.Sound given where
  shift sound shifts := sound_shift sound shifts
  move := by
    intro _ phase _ request answer after _ sound moves recalls
    refine ⟨?_, ?_, ?_⟩
    · intro inst has
      cases moves with
      | log => exact sound.names inst has
      | keep saves =>
          cases saves.kept_has has
          exact (sound_saves sound saves).1
      | lose saves =>
          cases saves.lost_has has
          exact (sound_saves sound saves).1
      | look looks => exact sound.names inst (looks.has has).1
      | emit emits => exact sound.names inst (emits.has has)
      | act acts => exact sound.names inst (acts.has has)
    · cases moves with
      | log => exact sound.declared
      | keep saves => exact (sound_saves sound saves).2.1
      | lose saves => exact (sound_saves sound saves).2.2 _
      | look looks => exact declared_look sound.declared looks
      | emit emits => exact declared_emit sound.declared emits
      | act acts => exact declared_act sound.declared acts
    · intro failure has
      rcases moves.failure_cases has with before | passed | arises
      · exact sound.spared failure before
      · exact known_of_passed recalls passed
      · exact arises.known sound

end Runs

/-! ## Calls -/

/-- A procedure saves only what names declared steps, and does not fail because a step is not
declared, as long as what it loads names declared steps. -/
def Proc.Declares {α : Type} (given : Instance → Prop) (proc : Proc (Except Failure α)) : Prop :=
  proc.Keeps (recalling given) (fun request _ => ∀ inst, request = .save inst → inst.Names given)
    (fun outcome _ => ∀ failure, outcome = .error failure → failure.isUnknownStep = false) ()

/-- A call that starts an instance of a definition at hand is given one that was read. -/
def EngineCall.TakesRead : EngineCall → Prop
  | .start _ (.ready definition) _ => definition.IsRead
  | _ => True

section Calls

variable {given : Instance → Prop} {runner : Runner} {α : Type} {id : String}

theorem run_declares {inst : Instance} (names : inst.Names given) :
    (runner.run inst).Declares given := by
  have start : (Phase.idle inst).Sound given := by
    refine ⟨?_, trivial, ?_⟩
    · rintro _ (⟨⟨⟩⟩ | ⟨⟨⟩⟩)
      exact names
    · intro failure has
      cases has
  refine sound_run_invariant.keeps ?_ ?_ (run_governed inst) [] start
  · rintro _ phase _ _ sound moves saved rfl
    rcases moves (.ok ()) with ⟨after, moves⟩
    cases moves with
    | keep saves => exact (sound_saves sound saves).1
    | act acts => cases acts
  · rintro _ _ _ _ sound rfl failure rfl
    exact sound.spared failure rfl

theorem declares_ok {value : α} :
    (Proc.done (.ok value) : Proc (Except Failure α)).Declares given := by
  intro failure failed
  cases failed

theorem declares_error {failure : Failure} (known : failure.isUnknownStep = false) :
    (Proc.done (.error failure) : Proc (Except Failure α)).Declares given := by
  rintro _ ⟨⟩
  exact known

theorem declares_map {β : Type} {proc : Proc (Except Failure α)} {change : α → β}
    (declares : proc.Declares given) : (Except.map change <$> proc).Declares given := by
  refine Proc.keeps_bind.mpr (declares.mono fun outcome _ known => ?_)
  rintro failure failed
  cases outcome with
  | ok value => cases failed
  | error other =>
      cases failed
      exact known _ rfl

/-- Asking for anything but a save is sound. -/
theorem declares_request {request : Request} {next : request.Answer → Proc (Except Failure α)}
    (unsaved : ∀ inst, request ≠ .save inst)
    (declares : ∀ answer, Recalls given request answer → (next answer).Declares given) :
    ((Proc.request request).bind next).Declares given :=
  ⟨fun inst saves => absurd saves (unsaved inst), fun answer _ recalls => declares answer recalls⟩

theorem declares_save {inst : Instance} {next : Except Failure Unit → Proc (Except Failure α)}
    (names : inst.Names given)
    (lost : ∀ failure, failure.isUnknownStep = false → (next (.error failure)).Declares given)
    (kept : (next (.ok ())).Declares given) :
    ((Proc.request (.save inst)).bind next).Declares given := by
  refine ⟨?_, fun answer _ recalls => ?_⟩
  · rintro _ ⟨⟩
    exact names
  · cases answer with
    | error failure => exact lost failure recalls
    | ok _ => exact kept

theorem declares_log {level : Level} {message : String} {next : Unit → Proc (Except Failure α)}
    (declares : (next ()).Declares given) :
    ((Proc.log level message).bind next).Declares given :=
  declares_request (by simp) fun _ _ => declares

theorem declares_emit {event : Event} {next : Unit → Proc (Except Failure α)}
    (declares : (next ()).Declares given) : ((Proc.emit event).bind next).Declares given := by
  simp only [Proc.emit, Proc.bind_eq, Proc.bind_assoc]
  refine declares_request (by simp) fun delivered _ => ?_
  cases delivered with
  | true => exact declares
  | false => exact declares_log declares

theorem declares_logWarnings {warnings : List String} {next : Unit → Proc (Except Failure α)}
    (declares : (next ()).Declares given) :
    ((logWarnings warnings).bind next).Declares given :=
  logWarnings_bind (Proc.Declares given) (fun _ => declares_log) declares

theorem resume_declares : (runner.resume id).Declares given := by
  simp only [Runner.resume, Proc.bind_eq]
  refine declares_request (by simp) fun loaded recalls => ?_
  cases loaded with
  | error failure => exact declares_error recalls
  | ok stored =>
      simp only
      split
      · exact declares_error rfl
      · exact declares_log (run_declares recalls)

theorem launch_declares {definition : Definition} {data : Dict} (read : definition.IsRead) :
    (runner.launch id definition data).Declares given := by
  simp only [Runner.launch, Proc.bind_eq]
  refine declares_save (.fresh read) (fun failure known => declares_error known) ?_
  exact declares_log (declares_emit (declares_map (run_declares (.fresh read))))

theorem newId_declares {named : Option String} {next : String → Proc (Except Failure α)}
    (declares : ∀ chosen, (next chosen).Declares given) :
    ((Runner.newId named).bind next).Declares given := by
  rcases newId_eq named with fresh | ⟨chosen, known⟩
  · rw [fresh]
    exact declares_request (by simp) fun chosen _ => declares chosen
  · rw [known]
    exact declares chosen

theorem parse_known {source : Definition.Source} {failure : Failure}
    (fails : Definition.parse source = .error failure) : failure.isUnknownStep = false := by
  cases Definition.parse_fails source failure fails with
  | inl told =>
      obtain ⟨error, rfl⟩ := told
      rfl
  | inr escapes => cases escapes <;> rfl

theorem known_of_toExcept {β : Type} {checked : Checked β} {failure : Failure}
    (fails : checked.toExcept = .error failure) : failure.isUnknownStep = false := by
  cases checked with
  | valid value => cases fails
  | invalid problems =>
      cases fails
      rfl

theorem initialData_known {context : Value} {failure : Failure}
    (fails : initialData context = .error failure) : failure.isUnknownStep = false := by
  unfold initialData at fails
  split at fails
  · exact known_of_toExcept fails
  · cases fails

/-- A source gives a definition that was read, if one at hand was read too. -/
theorem isRead_of_parse {source : Definition.Source} {definition : Definition}
    (takes : ∀ known, source = .ready known → known.IsRead)
    (parses : Definition.parse source = .ok definition) : definition.IsRead := by
  cases source with
  | ready known =>
      cases parses
      exact takes _ rfl
  | document value => exact ⟨_, parses, by simp⟩
  | bytes data => exact ⟨_, parses, by simp⟩

theorem start_declares {named : Option String} {source : Definition.Source} {context : Value}
    (takes : ∀ known, source = .ready known → known.IsRead) :
    (runner.start named source context).Declares given := by
  simp only [Runner.start, Runner.readDefinition]
  simp only [Proc.bind_eq, Proc.bind_assoc]
  apply declares_logWarnings
  simp only [Proc.pure_eq, Proc.done_bind]
  cases parses : Definition.parse source with
  | error failure => exact declares_error (parse_known parses)
  | ok definition =>
      refine newId_declares fun chosen => declares_request (by simp) fun answer recalls => ?_
      cases answer with
      | error failure => exact declares_error recalls
      | ok taken =>
          cases taken with
          | true =>
              refine declares_request (by simp) fun existing recalls => ?_
              cases existing with
              | error failure => exact declares_error recalls
              | ok existing => exact declares_error rfl
          | false =>
              simp only
              cases given : initialData context with
              | error failure => exact declares_error (initialData_known given)
              | ok data => exact launch_declares (isRead_of_parse takes parses)

theorem moveStored_declares {target : State} {amend : Instance → Instance}
    {line : Instance → String} {body : Instance → Except Failure EventBody}
    (amends : ∀ inst : Instance, inst.Names given → (amend inst).Names given)
    (tells : ∀ inst failure, body inst = .error failure → failure.isUnknownStep = false) :
    (runner.moveStored id target amend line body).Declares given := by
  simp only [Runner.moveStored, Proc.bind_eq]
  refine declares_request (by simp) fun loaded recalls => ?_
  cases loaded with
  | error failure => exact declares_error recalls
  | ok stored =>
      simp only
      cases moves : stored.transitionTo target runner.now with
      | error error => exact declares_error rfl
      | ok moved =>
          obtain ⟨_, rfl⟩ := Instance.transitionTo_eq_ok.mp moves
          refine declares_save (amends _ (Instance.Names.amended recalls _ _ _ _))
            (fun failure known => declares_error known) (declares_log ?_)
          cases bodies : body _ with
          | error failure => exact declares_error (tells _ failure bodies)
          | ok body => exact declares_emit declares_ok

theorem delete_declares : (Engine.delete id).Declares given := by
  simp only [Engine.delete, Proc.bind_eq]
  refine declares_request (by simp) fun removed recalls => ?_
  cases removed with
  | error failure => exact declares_error recalls
  | ok removed =>
      cases removed with
      | true => exact declares_ok
      | false => exact declares_error rfl

theorem cancel_declares {reason : Value} : (runner.cancel id reason).Declares given := by
  refine moveStored_declares ?_ ?_
  · intro inst names
    split
    · exact names.amended _ _ _ _
    · exact names
  · intro inst failure fails
    cases told : ((Reader.text reason).under (.name "reason")).toExcept with
    | ok text =>
        rw [told] at fails
        cases fails
    | error other =>
        rw [told] at fails
        cases fails
        exact known_of_toExcept told

theorem pause_declares : (runner.pause id).Declares given := by
  refine moveStored_declares (fun _ names => names) ?_
  intro inst failure fails
  cases fails

theorem EngineCall.proc_declares {call : EngineCall} (takes : call.TakesRead) :
    (call.proc runner).Declares given := by
  cases call with
  | start named source context =>
      apply declares_map
      apply start_declares
      rintro known rfl
      exact takes
  | resume id => exact declares_map resume_declares
  | cancel id reason => exact declares_map cancel_declares
  | pause id => exact declares_map pause_declares
  | delete id => exact delete_declares

end Calls

/-! ## Interleaved calls -/

/-- A call that begins may begin, and a wait does not fail because a step is not declared. -/
def Moment.IsSound : Moment → Prop
  | .begins _ call => call.TakesRead
  | .turn _ others =>
    ∀ seconds failure, others (.sleep seconds) = .error failure → failure.isUnknownStep = false

/-- All that is stored names declared steps, and so does all that is going to be. -/
structure Situation.Declares {σ : Type} (records : Records σ) (given : Instance → Prop)
    (situation : Situation σ) : Prop where
  stored : ∀ id inst, records.record? situation.state id = some inst → inst.Names given
  calls : ∀ call ∈ situation.calls, call.rest.Declares given

section Situations

variable {σ : Type} {records : Records σ} {given : Instance → Prop} {situation : Situation σ}
variable {state : σ} {request : Request} {others : (request : Request) → request.Answer}

theorem recalls_reply
    (stored : ∀ id inst, records.record? state id = some inst → inst.Names given)
    (waits : ∀ seconds failure, others (.sleep seconds) = .error failure →
      failure.isUnknownStep = false) :
    Recalls given request (records.reply others request state).1 := by
  cases request with
  | load loaded =>
      simp only [Records.reply, Records.load]
      cases held : records.record? state loaded with
      | none => rfl
      | some inst => exact stored loaded inst held
  | sleep seconds =>
      simp only [Records.reply]
      cases waited : others (.sleep seconds) with
      | ok _ => trivial
      | error failure => exact waits seconds failure waited
  | _ => trivial

theorem stored_reply
    (stored : ∀ id inst, records.record? state id = some inst → inst.Names given)
    (saves : ∀ inst, request = .save inst → inst.Names given) (id : String) (inst : Instance)
    (held : records.record? (records.reply others request state).2 id = some inst) :
    inst.Names given := by
  cases altering : alters id request with
  | false =>
      rw [record?_reply altering] at held
      exact stored id inst held
  | true =>
      cases request with
      | save saved =>
          have kept := (records.record?_save state saved id).trans (if_pos (eq_of_beq altering))
          cases kept.symm.trans held
          exact saves _ rfl
      | remove removed =>
          have gone := (records.record?_remove state removed id).trans
            (if_pos (eq_of_beq altering))
          cases gone.symm.trans held
      | _ => cases altering

namespace Situation.Declares

theorem after {id : String} {moment : Moment} (declares : situation.Declares records given)
    (sound : moment.IsSound) : (situation.after records id moment).Declares records given := by
  cases moment with
  | begins runner begins =>
      refine ⟨declares.stored, fun call member => ?_⟩
      cases List.mem_append.mp member with
      | inl earlier => exact declares.calls call earlier
      | inr fresh =>
          cases List.mem_singleton.mp fresh
          exact EngineCall.proc_declares sound
  | turn caller others =>
      unfold Situation.after
      simp only
      split
      · next request next overtaken turns =>
          obtain ⟨saves, onward⟩ := declares.calls _ (List.mem_of_getElem? turns)
          refine ⟨stored_reply declares.stored saves, fun call member => ?_⟩
          cases List.mem_or_eq_of_mem_set member with
          | inl bystanding =>
              obtain ⟨before, inside, rfl⟩ := List.mem_map.mp bystanding
              exact declares.calls before inside
          | inr turned =>
              subst turned
              exact onward _ () (recalls_reply declares.stored sound)
      · exact declares

/-- What holds of the store and of the calls goes along with every schedule. -/
theorem play {id : String} {schedule : List Moment} (declares : situation.Declares records given)
    (sound : ∀ moment ∈ schedule, moment.IsSound) :
    (situation.play records id schedule).Declares records given := by
  induction schedule generalizing situation with
  | nil => exact declares
  | cons moment rest ih =>
      obtain ⟨first, later⟩ := List.forall_mem_cons.mp sound
      exact ih (declares.after first) later

theorem saving {moment : Moment} {call : Call} {saved : Instance}
    (declares : situation.Declares records given)
    (saves : situation.saving? moment = some (call, saved)) : saved.Names given := by
  cases moment with
  | begins => cases saves
  | turn caller others =>
      unfold Situation.saving? at saves
      simp only at saves
      split at saves
      · next inst next overtaken turns =>
          cases saves
          exact (declares.calls _ (List.mem_of_getElem? turns)).1 _ rfl
      · cases saves

end Situation.Declares

end Situations

/-- Runs of instances begin with a store. -/
def Situation.beginning {σ : Type} (state : σ) (runs : List (Runner × Instance)) : Situation σ :=
  ⟨state, runs.map fun run => ⟨Except.map (fun _ => ()) <$> run.1.run run.2, false⟩⟩

/-- The instances that are in the store at the beginning, and those that are run. -/
def Records.Given {σ : Type} (records : Records σ) (state : σ) (runs : List (Runner × Instance))
    (inst : Instance) : Prop :=
  (∃ id, records.record? state id = some inst) ∨ ∃ run ∈ runs, run.2 = inst

theorem Situation.beginning_declares {σ : Type} {records : Records σ} {state : σ}
    {runs : List (Runner × Instance)}
    (placed : ∀ inst, records.Given state runs inst → inst.Placed) :
    (Situation.beginning state runs).Declares records (records.Given state runs) where
  stored id inst held :=
    have given : records.Given state runs inst := .inl ⟨id, held⟩
    .of_given (placed inst given) given
  calls call member := by
    obtain ⟨run, inside, rfl⟩ := List.mem_map.mp member
    have given : records.Given state runs run.2 := .inr ⟨run, inside, rfl⟩
    exact declares_map (run_declares (.of_given (placed _ given) given))

/-- Runs of instances that stand nowhere or at declared steps, and all calls that are made with
them, in whatever order, save only instances that stand nowhere or at declared steps too.  The steps
that are noted down in these are declared, or were noted down in the instances before; and no call
fails because a step is not declared. -/
theorem saves_declared {σ : Type} {records : Records σ} {state : σ}
    {runs : List (Runner × Instance)} {schedule : List Moment} (id : String)
    (placed : ∀ inst, records.Given state runs inst → inst.Placed)
    (sound : ∀ moment ∈ schedule, moment.IsSound) :
    let playing := (Situation.beginning state runs).play records id
    (∀ before moment after call saved, schedule = before ++ moment :: after →
      (playing before).saving? moment = some (call, saved) →
        saved.Names (records.Given state runs)) ∧
    ∀ call ∈ (playing schedule).calls, ∀ failure, call.rest = .done (.error failure) →
      failure.isUnknownStep = false := by
  have start := Situation.beginning_declares placed
  constructor
  · rintro before moment after call saved rfl saves
    have earlier : ∀ moment ∈ before, moment.IsSound := fun moment member =>
      sound moment (List.mem_append_left _ member)
    exact (start.play earlier).saving saves
  · intro call member failure failed
    have declares := (start.play sound).calls call member
    rw [failed] at declares
    exact declares failure rfl

/-- An instance that has noted down a step that its definition lacks. -/
def Instance.stray : Instance :=
  { Instance.fresh "w" .reversible [] default with completed := [.text "ghost"] }

theorem Instance.stray_placed : Instance.stray.Placed :=
  ⟨Definition.isRead_reversible, .inl rfl⟩

/-- A run of `Instance.stray` has begun. -/
def Situation.straying : Situation MemoryStore :=
  .beginning .empty [(.plain, .stray)]

/-- Every action succeeds. -/
abbrev succeeding : (request : Request) → request.Answer :=
  (Reply.result (.succeed [])).everywhere

theorem saves_declared_stray :
    let others := MemoryStore.records.Given .empty [(.plain, .stray)]
    let source := Definition.Source.document Definition.reversibleDocument
    let schedule := .begins .plain (.start (some "v") source .null) ::
      List.replicate 12 (.turn 0 succeeding) ++ List.replicate 15 (.turn 1 succeeding)
    let playing := Situation.straying.play MemoryStore.records "w"
    (∀ inst, others inst → inst.Placed) ∧ (∀ moment ∈ schedule, moment.IsSound) ∧
      ((playing (schedule.take 11)).saving? (.turn 0 succeeding)).map (·.2.completed) =
        some [.text "ghost", .text "only"] ∧
      (∀ before moment after call saved, schedule = before ++ moment :: after →
        (playing before).saving? moment = some (call, saved) → saved.Names others) ∧
      ∀ call ∈ (playing schedule).calls, ∀ failure, call.rest = .done (.error failure) →
        failure.isUnknownStep = false := by
  intro others source schedule playing
  have placed : ∀ inst, others inst → inst.Placed := by
    rintro inst (⟨id, held⟩ | ⟨run, member, rfl⟩)
    · cases held
    · cases List.mem_singleton.mp member
      exact Instance.stray_placed
  have sound : ∀ moment ∈ schedule, moment.IsSound := by
    intro moment member
    simp only [schedule, List.cons_append, List.mem_cons, List.mem_append, List.mem_replicate]
      at member
    rcases member with rfl | ⟨_, rfl⟩ | ⟨_, rfl⟩
    · trivial
    · rintro seconds failure ⟨⟩
    · rintro seconds failure ⟨⟩
  exact ⟨placed, sound, by decide +kernel, saves_declared "w" placed sound⟩

/-- Steps that are not declared stay noted down where they were noted down before. -/
theorem not_saves_declared :
    ¬ ∀ (inst saved : Instance) (call : Call) (schedule : List Moment) (moment : Moment),
      inst.Placed → (∀ moment ∈ schedule, moment.IsSound) → moment.IsSound →
      ((Situation.beginning MemoryStore.empty [(.plain, inst)]).play MemoryStore.records inst.id
        schedule).saving? moment = some (call, saved) →
      ∀ step ∈ saved.completed, saved.Declares step := by
  intro declares
  have notes : (Situation.straying.saving? (.turn 0 succeeding)).map
      (fun saving => (saving.2.completed, saving.2.definition.stepIds)) =
        some ([.text "ghost"], ["only"]) := by
    decide +kernel
  obtain ⟨⟨call, saved⟩, saves, same⟩ := Option.map_eq_some_iff.mp notes
  have noted : saved.completed = [.text "ghost"] := (Prod.mk.inj same).1
  have declared : saved.definition.stepIds = ["only"] := (Prod.mk.inj same).2
  have ghost : Value.text "ghost" ∈ saved.completed := by simp [noted]
  obtain ⟨id, member, called⟩ := declares .stray saved call [] (.turn 0 succeeding)
    Instance.stray_placed (by simp) (by rintro seconds failure ⟨⟩) saves _ ghost
  rw [declared] at member
  cases List.mem_singleton.mp member
  exact absurd called (by decide)

end Workflow
