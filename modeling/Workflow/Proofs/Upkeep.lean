import Mathlib.Data.List.Destutter
import Workflow.Proofs.Growth

/-!
# Instances that are kept up

There are few ways to change an instance: to move it to another state or to fail it, to put entries
into its data, and to note where it stands and what became of a step.  An instance is changed in
place, one field after the other, so a refusal in the middle could leave it half changed.  It never
does: whatever is tried, one edit after the other, each is made or refused as the state of the
instance says, and a refused one changes nothing.  The states that are visited follow the table of
moves, the work of the instance only grows, and nothing about it changes once it has ended.
-/

namespace Workflow

open Time

namespace Instance

/-! ## Edits -/

/-- A change that is asked of an instance. -/
inductive Edit where
  | move (target : State)
  | fail (message : Value)
  | merge (data : Dict)
  | stand (step : Value)
  | complete (step : Value)
  | failStep (step error : String)
  | skip (step : Value)

namespace Edit

/-- Makes an edit, unless the instance refuses it. -/
def apply (edit : Edit) (inst : Instance) (now : Timestamp) : Except TransitionError Instance :=
  match edit with
  | .move target => inst.transitionTo target now
  | .fail message => inst.fail message now
  | .merge data => inst.mergeData data now
  | .stand step => inst.setCurrentStep step now
  | .complete step => inst.markCompleted step now
  | .failStep step error => inst.markFailed step error now
  | .skip step => inst.markSkipped step now

/-- The state that an edit moves an instance to. -/
def target? : Edit → Option State
  | .move target => some target
  | .fail _ => some .failed
  | .merge _ | .stand _ | .complete _ | .failStep _ _ | .skip _ => none

/-- Whether an edit is made in a state.  Moves are made along the table, and all other edits until
the instance has ended. -/
def isAllowed (edit : Edit) (state : State) : Bool :=
  match edit.target? with
  | some target => state.canMoveTo target
  | none => !state.isTerminal

/-- Why an instance refuses an edit. -/
def refusal (edit : Edit) (inst : Instance) : TransitionError :=
  match edit.target? with
  | some target => ⟨.illegal, inst.state, target, some inst.id⟩
  | none => ⟨.ended, inst.state, inst.state, some inst.id⟩

/-- A refused move is told as such, and any other refused edit as an operation. -/
theorem kind_refusal (edit : Edit) (inst : Instance) :
    (Failure.transition (edit.refusal inst)).kind =
      if edit.target?.isSome then "InvalidStateTransitionError"
      else "InvalidWorkflowStateError" := by
  unfold refusal
  cases edit.target? <;> rfl

end Edit

variable {inst changed other : Instance} {edit : Edit} {now : Timestamp}

/-- What an instance is after an edit was made: in the state that it was moved to, and grown out of
what it was. -/
structure MadeBy (edit : Edit) (changed inst : Instance) : Prop where
  allowed : edit.isAllowed inst.state = true
  state : changed.state = edit.target?.getD inst.state
  accrues : changed.Accrues inst

/-- An edit that asks for no move is made in the states that have not ended. -/
theorem isAllowed_of_active (stays : edit.target? = none) (active : inst.state.isTerminal = false) :
    edit.isAllowed inst.state = true := by
  simp [Edit.isAllowed, stays, active]

theorem madeBy_of_apply (applies : edit.apply inst now = .ok changed) : changed.MadeBy edit inst := by
  cases edit with
  | move target =>
      obtain ⟨allowed, rfl⟩ := transitionTo_eq_ok.mp applies
      exact ⟨allowed, rfl, .of_eq rfl rfl rfl, rfl, rfl, rfl, List.prefix_rfl⟩
  | fail message =>
      obtain ⟨allowed, rfl⟩ := fail_eq_ok.mp applies
      exact ⟨allowed, rfl, .of_eq rfl rfl rfl, rfl, rfl, rfl, List.prefix_rfl⟩
  | merge data =>
      obtain ⟨active, rfl⟩ := mergeData_eq_ok.mp applies
      exact ⟨isAllowed_of_active rfl active, rfl,
        ⟨List.prefix_rfl, List.prefix_rfl, Dict.keys_overlay inst.data data⟩, rfl, rfl, rfl,
        List.prefix_rfl⟩
  | stand step =>
      obtain ⟨active, rfl⟩ := setCurrentStep_eq_ok.mp applies
      exact ⟨isAllowed_of_active rfl active, rfl, .of_eq rfl rfl rfl, rfl, rfl, rfl,
        List.prefix_rfl⟩
  | complete step =>
      obtain ⟨active, rfl⟩ := markCompleted_eq_ok.mp applies
      exact ⟨isAllowed_of_active rfl active, rfl,
        ⟨List.prefix_append _ _, List.prefix_rfl, List.prefix_rfl⟩, rfl, rfl, rfl, List.prefix_rfl⟩
  | failStep step error =>
      obtain ⟨active, rfl⟩ := markFailed_eq_ok.mp applies
      exact ⟨isAllowed_of_active rfl active, rfl, .of_eq rfl rfl rfl, rfl, rfl, rfl,
        List.prefix_append _ _⟩
  | skip step =>
      obtain ⟨active, rfl⟩ := markSkipped_eq_ok.mp applies
      exact ⟨isAllowed_of_active rfl active, rfl,
        ⟨List.prefix_rfl, List.prefix_append _ _, List.prefix_rfl⟩, rfl, rfl, rfl, List.prefix_rfl⟩

/-! ## Refused edits -/

theorem transitionTo_eq_error {target : State} {error : TransitionError} :
    inst.transitionTo target now = .error error ↔
      inst.state.canMoveTo target = false ∧
        error = ⟨.illegal, inst.state, target, some inst.id⟩ := by
  simp only [transitionTo, ensureTransition]
  cases inst.state.canMoveTo target with
  | true => simp [bind, Except.bind]
  | false => simpa [bind, Except.bind] using eq_comm

theorem fail_eq_error {message : Value} {error : TransitionError} :
    inst.fail message now = .error error ↔
      inst.state.canMoveTo .failed = false ∧
        error = ⟨.illegal, inst.state, .failed, some inst.id⟩ := by
  rw [← @transitionTo_eq_error inst now]
  cases moves : inst.transitionTo .failed now <;> simp [fail, moves, bind, Except.bind]

theorem change_eq_error {update : Instance → Instance} {error : TransitionError} :
    inst.change now update = .error error ↔
      inst.state.isTerminal = true ∧ error = ⟨.ended, inst.state, inst.state, some inst.id⟩ := by
  simp only [change]
  cases inst.state.isTerminal with
  | true => simpa using eq_comm
  | false => simp

/-- An edit is refused where it is not allowed, and the error names the state and the instance. -/
theorem apply_eq_error {error : TransitionError} :
    edit.apply inst now = .error error ↔
      edit.isAllowed inst.state = false ∧ error = edit.refusal inst := by
  cases edit with
  | move target => exact transitionTo_eq_error
  | fail message => exact fail_eq_error
  | merge | stand | complete | failStep | skip =>
      simp only [Edit.apply, Edit.isAllowed, Edit.target?, Edit.refusal, mergeData, setCurrentStep,
        markCompleted, markFailed, markSkipped, change_eq_error, Bool.not_eq_eq_eq_not, Bool.not_false]

end Instance

/-! ## Changes in place -/

/-- A change of an instance in place.  What was written before a refusal stays written. -/
abbrev InPlace := EStateM TransitionError Instance

namespace InPlace

def touch (now : Timestamp) : InPlace Unit :=
  modify (·.touch now)

def transitionTo (target : State) (now : Timestamp) : InPlace Unit := do
  let inst ← get
  let state ← MonadExcept.ofExcept (ensureTransition inst.state target (some inst.id))
  modify ({ · with state })
  touch now

def fail (message : Value) (now : Timestamp) : InPlace Unit := do
  transitionTo .failed now
  modify ({ · with errorMessage := message })

def ensureMutable : InPlace Unit := do
  let inst ← get
  if inst.state.isTerminal then throw ⟨.ended, inst.state, inst.state, some inst.id⟩

/-- Writes to an instance that has not ended. -/
def change (now : Timestamp) (write : Instance → Instance) : InPlace Unit := do
  ensureMutable
  modify write
  touch now

/-- Makes an edit, statement by statement. -/
def perform (edit : Instance.Edit) (now : Timestamp) : InPlace Unit :=
  match edit with
  | .move target => transitionTo target now
  | .fail message => fail message now
  | .merge data => change now fun inst => { inst with data := inst.data.overlay data }
  | .stand step => change now ({ · with currentStep := step })
  | .complete step => change now fun inst => { inst with completed := inst.completed ++ [step] }
  | .failStep step error =>
    change now fun inst => { inst with failures := inst.failures ++ [⟨step, error, now⟩] }
  | .skip step => change now fun inst => { inst with skipped := inst.skipped ++ [step] }

variable {inst : Instance} {now : Timestamp}

/-- What is left of an instance if a change of it is made, and if it is refused. -/
def left (inst : Instance) :
    Except TransitionError Instance → EStateM.Result TransitionError Instance Unit
  | .ok changed => .ok () changed
  | .error error => .error error inst

theorem run_transitionTo (target : State) :
    (transitionTo target now).run inst = left inst (inst.transitionTo target now) := by
  simp only [transitionTo, Instance.transitionTo, ensureTransition, EStateM.run_bind,
    EStateM.run_get]
  cases inst.state.canMoveTo target <;> rfl

theorem run_fail (message : Value) :
    (fail message now).run inst = left inst (inst.fail message now) := by
  have moves := @run_transitionTo inst now .failed
  simp only [fail, Instance.fail, EStateM.run_bind, moves]
  cases inst.transitionTo .failed now <;> rfl

theorem run_change (write : Instance → Instance) :
    (change now write).run inst = left inst (inst.change now write) := by
  simp only [change, ensureMutable, Instance.change, EStateM.run_bind, EStateM.run_get]
  cases inst.state.isTerminal <;> rfl

/-- An edit in place leaves the edited instance, or the same one if it is refused. -/
theorem run_perform (edit : Instance.Edit) :
    (perform edit now).run inst = left inst (edit.apply inst now) := by
  cases edit with
  | move target => exact run_transitionTo target
  | fail message => exact run_fail message
  | merge | stand | complete | failStep | skip => exact run_change _

end InPlace

/-! ## Histories -/

namespace Instance

/-- An edit that was tried at a time, what it found and left, and why it was refused, if it was. -/
structure Tried where
  edit : Edit
  now : Timestamp
  before : Instance
  after : Instance
  refusal : Option TransitionError

/-- Tries an edit. -/
def attempt (inst : Instance) (edit : Edit) (now : Timestamp) : Tried :=
  match (InPlace.perform edit now).run inst with
  | .ok _ after => ⟨edit, now, inst, after, none⟩
  | .error error after => ⟨edit, now, inst, after, some error⟩

/-- Tries edits one after the other, each on what the one before it left. -/
def history : Instance → List (Edit × Timestamp) → List Tried
  | _, [] => []
  | inst, (edit, now) :: edits =>
    let tried := inst.attempt edit now
    tried :: tried.after.history edits

/-- An edit was made if it is allowed, and else refused without a trace. -/
inductive Tried.Sound (tried : Tried) : Prop where
  | made (unrefused : tried.refusal = none) (made : tried.after.MadeBy tried.edit tried.before)
  | refused (forbidden : tried.edit.isAllowed tried.before.state = false)
      (refused : tried.refusal = some (tried.edit.refusal tried.before))
      (unchanged : tried.after = tried.before)

/-- An instance has grown out of an earlier one, and is that very instance if that one had ended. -/
structure Outlasts (inst earlier : Instance) : Prop where
  accrues : inst.Accrues earlier
  frozen : earlier.state.isTerminal = true → inst = earlier

variable {inst other last : Instance} {edit : Edit} {now : Timestamp}

theorem Outlasts.trans (later : last.Outlasts inst) (earlier : inst.Outlasts other) :
    last.Outlasts other where
  accrues := later.accrues.trans earlier.accrues
  frozen ended := by
    have same : inst = other := earlier.frozen ended
    exact (later.frozen (same ▸ ended)).trans same

instance : IsTrans Instance (fun earlier later => later.Outlasts earlier) :=
  ⟨fun _ _ _ earlier later => later.trans earlier⟩

/-! ### A single edit -/

theorem attempt_of_ok (applies : edit.apply inst now = .ok other) :
    inst.attempt edit now = ⟨edit, now, inst, other, none⟩ := by
  simp only [attempt, InPlace.run_perform, applies, InPlace.left]

theorem attempt_of_error {error : TransitionError} (refuses : edit.apply inst now = .error error) :
    inst.attempt edit now = ⟨edit, now, inst, inst, some error⟩ := by
  simp only [attempt, InPlace.run_perform, refuses, InPlace.left]

theorem sound_attempt (inst : Instance) (edit : Edit) (now : Timestamp) :
    (inst.attempt edit now).Sound := by
  cases applies : edit.apply inst now with
  | ok changed =>
      rw [attempt_of_ok applies]
      exact .made rfl (madeBy_of_apply applies)
  | error error =>
      obtain ⟨forbidden, rfl⟩ := apply_eq_error.mp applies
      rw [attempt_of_error applies]
      exact .refused forbidden rfl rfl

theorem attempt_asked (inst : Instance) (edit : Edit) (now : Timestamp) :
    (inst.attempt edit now).edit = edit ∧ (inst.attempt edit now).now = now ∧
      (inst.attempt edit now).before = inst := by
  unfold attempt
  split <;> exact ⟨rfl, rfl, rfl⟩

/-- Nothing is allowed in a state that has ended. -/
theorem Edit.isAllowed_of_isTerminal {state : State} (edit : Edit)
    (ended : state.isTerminal = true) : edit.isAllowed state = false := by
  cases target : edit.target? with
  | none => simp [isAllowed, target, ended]
  | some next =>
      simp [isAllowed, target, State.canMoveTo, (State.successors_eq_nil_iff state).mpr ended]

theorem MadeBy.moves (made : other.MadeBy edit inst) :
    other.state = inst.state ∨ inst.state.canMoveTo other.state = true := by
  have allowed := made.allowed
  have state := made.state
  cases target : edit.target? with
  | none => exact .inl (by simpa [target] using state)
  | some next => exact .inr (by simpa [Edit.isAllowed, target, state] using allowed)

theorem MadeBy.outlasts (made : other.MadeBy edit inst) : other.Outlasts inst :=
  ⟨made.accrues, fun ended =>
    absurd made.allowed (by simp [edit.isAllowed_of_isTerminal ended])⟩

namespace Tried

variable {tried : Tried}

theorem Sound.moves (sound : tried.Sound) :
    tried.after.state = tried.before.state ∨
      tried.before.state.canMoveTo tried.after.state = true := by
  cases sound with
  | made _ made => exact made.moves
  | refused _ _ unchanged => exact .inl (congrArg state unchanged)

theorem Sound.kind_refusal (sound : tried.Sound) {error : TransitionError}
    (refuses : error ∈ tried.refusal) : (Failure.transition error).kind ∈
      ["InvalidStateTransitionError", "InvalidWorkflowStateError"] := by
  cases sound with
  | made unrefused _ => simp [unrefused] at refuses
  | refused _ refused _ =>
      rw [refused, Option.mem_some_iff] at refuses
      rw [← refuses, Edit.kind_refusal]
      split <;> simp

theorem Sound.outlasts (sound : tried.Sound) : tried.after.Outlasts tried.before := by
  cases sound with
  | made _ made => exact made.outlasts
  | refused _ _ unchanged => exact ⟨unchanged ▸ .refl _, fun _ => unchanged⟩

end Tried

/-! ### All edits -/

/-- The instances that edits find and leave. -/
def versions (inst : Instance) (edits : List (Edit × Timestamp)) : List Instance :=
  inst :: (inst.history edits).map (·.after)

theorem history_asked (inst : Instance) (edits : List (Edit × Timestamp)) :
    (inst.history edits).map (fun tried => (tried.edit, tried.now)) = edits := by
  induction edits generalizing inst with
  | nil => rfl
  | cons first edits ih =>
      obtain ⟨edit, now⟩ := first
      obtain ⟨sameEdit, sameTime, _⟩ := inst.attempt_asked edit now
      simp only [history, List.map_cons, sameEdit, sameTime, ih]

/-- Each edit finds what the one before it left. -/
theorem history_before (inst : Instance) (edits : List (Edit × Timestamp)) :
    (inst.history edits).map (·.before) = (inst.versions edits).dropLast := by
  induction edits generalizing inst with
  | nil => rfl
  | cons first edits ih =>
      obtain ⟨edit, now⟩ := first
      obtain ⟨_, _, found⟩ := inst.attempt_asked edit now
      simp only [versions, history, List.map_cons, List.dropLast_cons_cons, found]
      exact congrArg _ (ih _)

theorem sound_history (inst : Instance) (edits : List (Edit × Timestamp)) :
    ∀ tried ∈ inst.history edits, tried.Sound := by
  induction edits generalizing inst with
  | nil => simp [history]
  | cons first edits ih =>
      simp only [history, List.forall_mem_cons]
      exact ⟨sound_attempt inst first.1 first.2, ih _⟩

/-- What every edit preserves holds from each version of an instance to the next. -/
theorem isChain_versions {relates : Instance → Instance → Prop}
    (step : ∀ tried : Tried, tried.Sound → relates tried.before tried.after) (inst : Instance)
    (edits : List (Edit × Timestamp)) : (inst.versions edits).IsChain relates := by
  induction edits generalizing inst with
  | nil => exact .singleton inst
  | cons first edits ih =>
      obtain ⟨edit, now⟩ := first
      obtain ⟨_, _, found⟩ := inst.attempt_asked edit now
      have related := step _ (inst.sound_attempt edit now)
      rw [found] at related
      exact .cons_cons related (ih _)

/-- If each item is the same as the one before it or related to it, then the items without
repetitions are related. -/
theorem isChain_destutter_of_isChain {α : Type} [DecidableEq α] {relates : α → α → Prop}
    {items : List α} (chain : items.IsChain fun item next => next = item ∨ relates item next) :
    (items.destutter (· ≠ ·)).IsChain relates := by
  cases items with
  | nil => exact .nil
  | cons first rest =>
      suffices ∃ others, rest.destutter' (· ≠ ·) first = first :: others ∧
          (first :: others).IsChain relates by
        obtain ⟨others, same, related⟩ := this
        rwa [List.destutter_cons', same]
      induction rest generalizing first with
      | nil => exact ⟨[], rfl, .singleton first⟩
      | cons next rest ih =>
          rw [List.isChain_cons_cons] at chain
          obtain ⟨others, same, related⟩ := ih next chain.2
          by_cases repeated : next = first
          · rw [List.destutter'_cons_neg _ (by simp [repeated])]
            exact repeated ▸ ⟨others, same, related⟩
          · rw [List.destutter'_cons_pos _ (Ne.symm repeated)]
            exact ⟨next :: others, congrArg _ same,
              .cons_cons (chain.1.resolve_left repeated) related⟩

/-- Whatever edits are tried of an instance, one after the other, each is made or refused as an
illegal move or operation, and a refused one leaves the instance exactly as it was.  The states that
are visited are a path in the table of moves.  The instance keeps its completed, skipped and failed
steps and its data keys and adds to their ends, and once it has ended nothing about it changes. -/
theorem history_follows_lifecycle (inst : Instance) (edits : List (Edit × Timestamp)) :
    let history := inst.history edits
    let versions := inst.versions edits
    history.map (fun tried => (tried.edit, tried.now)) = edits ∧
      history.map (·.before) = versions.dropLast ∧
      (∀ tried ∈ history, tried.Sound ∧ ∀ error ∈ tried.refusal,
        (Failure.transition error).kind ∈
          ["InvalidStateTransitionError", "InvalidWorkflowStateError"]) ∧
      ((versions.map (·.state)).destutter (· ≠ ·)).IsChain
        (fun state next => state.canMoveTo next = true) ∧
      versions.Pairwise (fun earlier later =>
        earlier.completed <+: later.completed ∧ earlier.skipped <+: later.skipped ∧
          earlier.failures <+: later.failures ∧
          earlier.data.map Prod.fst <+: later.data.map Prod.fst ∧
          (earlier.state.isTerminal = true → later = earlier)) := by
  refine ⟨history_asked inst edits, history_before inst edits, ?refusals, ?path, ?growth⟩
  case refusals =>
    intro tried among
    have sound := sound_history inst edits tried among
    exact ⟨sound, fun error refuses => sound.kind_refusal refuses⟩
  case path =>
    refine isChain_destutter_of_isChain (List.isChain_map _ |>.mpr ?_)
    exact isChain_versions (fun _ sound => sound.moves) inst edits
  case growth =>
    have chain : (inst.versions edits).IsChain (fun earlier later => later.Outlasts earlier) :=
      isChain_versions (fun _ sound => sound.outlasts) inst edits
    refine chain.pairwise.imp fun outlasts => ?_
    exact ⟨outlasts.accrues.completed, outlasts.accrues.skipped, outlasts.accrues.failures,
      outlasts.accrues.keys, outlasts.frozen⟩

end Instance

end Workflow
