import Workflow.Proofs.Governed
import Workflow.Proofs.Reading

/-!
# Failures of runs

Where the failures come from that a run ends with.  Conditions and templates fail in ways of their
own, which have to do with the text and the data.  Beyond these there are few failures that a run
makes itself: it was called for an instance that cannot run, an instance refuses a change, the step
it stands at is not declared, an action is not registered, or there is no step to begin with.  All
others are passed on from the store and from the clock.
-/

namespace Workflow

/-! ## Failures of conditions and templates -/

/-- Whether conditions and templates may fail so. -/
def Failure.isOfData : Failure → Bool
  | .workflow (.evaluation (.unknownStep _ _)) => false
  | .workflow (.evaluation _) | .fault _ => true
  | _ => false

/-- A computation fails, if it does, as conditions and templates may. -/
abbrev FailsOnData {α : Type} (result : Except Failure α) : Prop :=
  FailsOnly (·.isOfData = true) result

theorem FailsOnData.integer {α : Type} {result : Except Number.IntegerError α} :
    FailsOnData (result.mapError Failure.integer) :=
  .mapError fun _ => rfl

namespace Condition

theorem compare_failsOnData (left : Value) (operator : Operator) (right expression : Value) :
    FailsOnData (compare left operator right expression) := by
  have orders : FailsOnData (order? left right expression) := by
    unfold order?
    split
    · exact .error rfl
    · exact .ok _
    · exact .ok _
    · exact .error rfl
  cases operator with
  | equal | notEqual => exact FailsOnData.integer
  | is | isNot => exact .ok _
  | greater | less | greaterEqual | lessEqual => exact .bind orders fun _ _ => .ok _

theorem evaluate_failsOnData (expression data : Value) :
    FailsOnData (evaluate expression data) := by
  unfold evaluate
  split
  · unfold evaluateText
    dsimp only
    split
    · exact .error rfl
    · split
      · split
        · exact .error rfl
        · refine .bind FailsOnData.integer fun _ _ => .bind FailsOnData.integer fun _ _ => ?_
          exact compare_failsOnData _ _ _ _
      · split
        · exact .ok _
        · split
          · exact .ok _
          · split
            · exact .error rfl
            · exact .bind FailsOnData.integer fun _ _ => .ok _
  · exact .error rfl

theorem firstFalse?_failsOnData {α : Type} (view : α → Value) (data : Value)
    (conditions : List α) : FailsOnData (firstFalse? view data conditions) := by
  induction conditions with
  | nil => exact .ok _
  | cons condition rest ih =>
      refine .bind (evaluate_failsOnData _ _) fun holds _ => ?_
      cases holds with
      | false => exact .ok _
      | true => exact ih

end Condition

namespace Template

/-- A template may fail so: a path of it has an index that is not read, or leads to a value that has
no JSON form. -/
structure MayFail (way : Failure → Prop) : Prop where
  integer : ∀ error, way (.integer error)
  unwritable : ∀ error, way (.unwritable error)

variable {way : Failure → Prop}

theorem render_failsOnly (may : MayFail way) (template : String) (data : Value) :
    FailsOnly way (render template data) := by
  refine .map ?_ _
  induction segments template with
  | nil => exact .ok _
  | cons segment rest ih =>
      refine .bind ?_ fun _ _ => .bind ih fun _ _ => .ok _
      cases segment with
      | char c => exact .ok _
      | hole placeholder =>
          refine .bind (.mapError may.integer) fun found _ => ?_
          cases found with
          | none => exact .ok _
          | some value => exact .bind (.mapError may.unwritable) fun _ _ => .ok _

mutual

theorem renderValue_failsOnly (may : MayFail way) (data : Value) :
    ∀ value, FailsOnly way (renderValue data value)
  | .scalar scalar => by
      cases scalar with
      | text template => exact .map (render_failsOnly may template data) _
      | _ => exact .ok _
  | .list items => .map (renderItems_failsOnly may data items) _
  | .dict entries => .map (renderEntries_failsOnly may data entries) _
  | .group _ | .set _ | .loop _ _ => .ok _

theorem renderItems_failsOnly (may : MayFail way) (data : Value) :
    ∀ items, FailsOnly way (renderItems data items)
  | [] => .ok _
  | item :: rest =>
      .bind (renderValue_failsOnly may data item) fun _ _ =>
        .bind (renderItems_failsOnly may data rest) fun _ _ => .ok _

theorem renderEntries_failsOnly (may : MayFail way) (data : Value) :
    ∀ entries, FailsOnly way (renderEntries data entries)
  | [] => .ok _
  | (_, value) :: rest =>
      .bind (renderValue_failsOnly may data value) fun _ _ =>
        .bind (renderEntries_failsOnly may data rest) fun _ _ => .ok _

end

theorem mayFail_isOfData : MayFail (·.isOfData = true) :=
  ⟨fun _ => rfl, fun _ => rfl⟩

end Template

theorem chosenStep_failsOnData (inst : Instance) (key : String) :
    FailsOnData (chosenStep inst key) := by
  have selects (transitions : List Transition) :
      FailsOnData (selectTransition inst transitions) := by
    induction transitions with
    | nil => exact .ok _
    | cons transition rest ih =>
        simp only [selectTransition]
        split
        · exact .ok _
        · refine .bind (Condition.evaluate_failsOnData _ _) fun holds _ => ?_
          cases holds with
          | false => exact ih
          | true => exact .ok _
  intro failure fails
  simp only [chosenStep] at fails
  split at fails
  · cases fails
  · split at fails
    · next refused =>
        cases fails
        exact selects _ failure refused
    · cases fails
    · cases fails

/-! ## Failures in phases -/

/-- The answer to a request passes a failure on to a run.  That an instance is not stored is no
failure, and one to make an action fails the step, unless the action is not registered. -/
inductive Request.Passes : (request : Request) → request.Answer → Failure → Prop where
  | load {id : String} {failure : Failure} :
      (∀ missing storage, failure ≠ .workflow (.instanceNotFound missing storage)) →
      Passes (.load id) (.error failure) failure
  | save {inst : Instance} {failure : Failure} : Passes (.save inst) (.error failure) failure
  | sleep {seconds : Number.Binary64} {failure : Failure} :
      Passes (.sleep seconds) (.error failure) failure
  | make {invocation : Invocation} {name : Value} {step : Option String}
      {available : List String} :
      Passes (.make invocation) (.error (.workflow (.actionNotFound name step available)))
        (.workflow (.actionNotFound name step available))

namespace Phase

variable {runner : Runner}

/-- The failure that a run has in a phase. -/
def failure? : Phase → Option Failure
  | .closing _ _ _ failure | .closed _ _ _ failure => failure
  | .raised _ failure | .ended (.error failure) => some failure
  | _ => none

/-- The failures that a run makes itself in a phase. -/
inductive Arises (runner : Runner) : Phase → Failure → Prop where
  /-- The run was called for an instance that cannot run. -/
  | refused {inst : Instance} {error : TransitionError} : inst.state.canMoveTo .running = false →
      inst.state ≠ .running → Arises runner (.idle inst) (.transition error)
  /-- The instance is not running, and refuses a change. -/
  | frozen {phase : Phase} {inst : Instance} {error : TransitionError} :
      phase.worked? = some inst → inst.state ≠ .running → Arises runner phase (.transition error)
  | noEntry {inst : Instance} : firstStep? inst = none →
      Arises runner (.begun inst) (.fault (Fault.noEntryStep.awaited))
  | unknownStep {remaining : Nat} {inst : Instance} {key : String} :
      inst.definition.step? key = none →
      Arises runner (.clear remaining inst key)
        (.evaluation (.unknownStep key inst.definition.name))
  | unregistered {phase : Phase} {action : String} {step : Step} :
      Arises runner phase (runner.actionNotFound action step)
  | ofData {phase : Phase} {failure : Failure} : failure.isOfData = true →
      Arises runner phase failure

/-- A change is refused only by an instance that is not running. -/
theorem frozen_of_change {inst : Instance} {update : Instance → Instance} {error : TransitionError}
    (refused : inst.change runner.now update = .error error) : inst.state ≠ .running := by
  intro running
  simp [Instance.change, running, State.isTerminal, State.isActive] at refused

/-- A running instance completes and fails. -/
theorem frozen_of_move {inst : Instance} {target : State} {error : TransitionError}
    (ends : State.running.canMoveTo target = true)
    (refused : inst.transitionTo target runner.now = .error error) : inst.state ≠ .running := by
  intro running
  simp [Instance.transitionTo, ensureTransition, running, ends, bind, Except.bind] at refused

theorem frozen_of_fail {inst : Instance} {message : Value} {error : TransitionError}
    (refused : inst.fail message runner.now = .error error) : inst.state ≠ .running := by
  rcases then_eq_error.mp refused with refused | ⟨_, _, ⟨⟩⟩
  exact frozen_of_move (by decide) refused

/-- An instance that is not running and refuses to has ended. -/
theorem refused_of_move {inst : Instance} {error : TransitionError}
    (refused : inst.transitionTo .running runner.now = .error error) :
    inst.state.canMoveTo .running = false := by
  rcases then_eq_error.mp refused with refused | ⟨_, _, ⟨⟩⟩
  simp only [ensureTransition] at refused
  split at refused
  · cases refused
  · next illegal => simpa using illegal

/-- What a run fails with after it went on by itself, it failed with before, or made itself. -/
theorem Shifts.failure_cases {phase after : Phase} {failure : Failure}
    (shifts : Shifts runner phase after) (has : after.failure? = some failure) :
    phase.failure? = some failure ∨ phase.Arises runner failure := by
  cases shifts with
  | unresumable terminal =>
      cases has
      refine .inr (.refused ?_ ?_)
      · simp [State.canMoveTo, (State.successors_eq_nil_iff _).mpr terminal]
      · intro running
        simp [running, State.isTerminal, State.isActive] at terminal
  | unstartable _ different refused =>
      cases has
      exact .inr (.refused (refused_of_move refused) different)
  | noEntry enters =>
      cases has
      exact .inr (.noEntry enters)
  | unknownStep undeclared =>
      cases has
      exact .inr (.unknownStep undeclared)
  | unenterable refused | unleavable refused | unskippable _ _ refused | unmarkable refused =>
      cases has
      exact .inr (.frozen rfl (frozen_of_change refused))
  | unmerged refused =>
      cases has
      rcases then_eq_error.mp refused with refused | ⟨merged, merges, refused⟩
      · exact .inr (.frozen rfl (frozen_of_change refused))
      · rcases Instance.mergeData_eq_ok.mp merges with ⟨_, rfl⟩
        have frozen := frozen_of_change refused
        exact .inr (.frozen rfl frozen)
  | uncompletable refused =>
      cases has
      exact .inr (.frozen rfl (frozen_of_move (by decide) refused))
  | unfailable refused | unabortable refused =>
      cases has
      exact .inr (.frozen rfl (frozen_of_fail refused))
  | unevaluated fails =>
      cases has
      exact .inr (.ofData (Condition.firstFalse?_failsOnData _ _ _ _ fails))
  | unrendered _ fails | undoUnrendered _ fails =>
      cases has
      exact .inr (.ofData (Template.renderEntries_failsOnly Template.mayFail_isOfData _ _ _ fails))
  | unchosen fails =>
      cases has
      exact .inr (.ofData (chosenStep_failsOnData _ _ _ fails))
  | unregistered =>
      cases has
      exact .inr .unregistered
  | settled | aborted => exact .inl has
  | _ => cases has

/-- What a run fails with after a look, the look passed on to it. -/
theorem Looks.failure_cases {phase onward : Phase} {inst : Instance} {failure : Failure}
    {loaded : Except Failure Instance} (looks : Looks phase inst onward)
    (has : (afterLook inst onward (.ofLoaded loaded)).failure? = some failure) :
    Request.Passes (.load inst.id) loaded failure := by
  have quiet : onward.failure? = none := by
    cases looks with
    | before => rfl
    | @after _ outcome => cases outcome <;> rfl
  have onward_not : onward.failure? ≠ some failure := by simp [quiet]
  unfold Interruption.ofLoaded at has
  split at has
  · split at has
    · cases has
    · exact absurd has onward_not
  · exact absurd has onward_not
  · next stored =>
      cases has
      exact .load stored

/-- The number that a run waits for may be out of bounds, and that is all. -/
theorem isOfData_of_afterDraw {trial : Trial}
    {wait : Number.Binary64 → Except Fault Number.Binary64} {fraction : Number.Binary64}
    {failure : Failure} (has : (afterDraw trial wait fraction).failure? = some failure) :
    failure.isOfData = true := by
  unfold afterDraw at has
  cases waits : wait fraction with
  | ok seconds =>
      rw [waits] at has
      cases has
  | error fault =>
      rw [waits] at has
      cases has
      rfl

/-- What a run fails with after it asked an action or the clock was passed on to it, or is a fault
of the number that it waits for. -/
theorem Acts.failure_cases {phase after : Phase} {request : Request} {answer : request.Answer}
    {failure : Failure} (acts : Acts runner phase request answer after)
    (has : after.failure? = some failure) :
    request.Passes answer failure ∨ failure.isOfData = true := by
  cases acts with
  | make =>
      unfold afterMake at has
      split at has
      · cases has
      · cases has
        exact .inl .make
      · cases has
  | permit =>
      unfold afterPermit at has
      split at has <;> cases has
  | draw => exact .inr (isOfData_of_afterDraw has)
  | @rest _ _ answer =>
      cases answer with
      | ok _ => cases has
      | error failure =>
          cases has
          exact .inl .sleep
  | @unmake _ _ _ _ _ _ answer => cases answer <;> cases has
  | perform | undo => cases has

/-- What a run fails with after an answer, it failed with before, was passed on to it, or arises. -/
theorem Moves.failure_cases {phase after : Phase} {request : Request} {answer : request.Answer}
    {failure : Failure} (moves : Moves runner phase request answer after)
    (has : after.failure? = some failure) :
    phase.failure? = some failure ∨ request.Passes answer failure ∨
      phase.Arises runner failure := by
  cases moves with
  | log => exact .inl has
  | keep saves =>
      cases saves with
      | abort => exact .inl has
      | _ => cases has
  | lose saves =>
      cases saves with
      | _ =>
          cases has
          exact .inr (.inl .save)
  | look looks => exact .inr (.inl (looks.failure_cases has))
  | emit emits =>
      cases emits with
      | aborted => exact .inl has
      | _ => cases has
  | act acts =>
      rcases acts.failure_cases has with passed | ofData
      · exact .inr (.inl passed)
      · exact .inr (.inr (.ofData ofData))

end Phase

end Workflow
