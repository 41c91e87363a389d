import Mathlib.Data.List.Nodup
import Workflow.Proofs.Passage

/-!
# Undoing steps

When a step fails, it and the completed steps are undone as far as they have a compensation, each of
them once, whatever becomes of the others.  Then the run ends with the failure of the step.  One
thing gets in the way: parameters of a step that cannot be rendered.
-/

namespace Workflow

open Proc

/-! ## Which steps are undone -/

theorem mem_firstOccurrences {id : String} {ids : List String} :
    id ∈ firstOccurrences ids ↔ id ∈ ids := by
  induction ids with
  | nil => rfl
  | cons first rest ih =>
      by_cases same : id = first
      · simp [firstOccurrences, same]
      · simp [firstOccurrences, same, ih]

theorem nodup_firstOccurrences (ids : List String) : (firstOccurrences ids).Nodup := by
  induction ids with
  | nil => exact List.nodup_nil
  | cons first rest ih =>
      simp only [firstOccurrences, List.nodup_cons, List.mem_filter]
      constructor
      · simp
      · exact ih.filter _

/-- When a step fails, a step is to be undone if it has a compensation and is the failed one or a
declared one that was completed. -/
def Instance.ToUndo (inst : Instance) (failed step : Step) : Prop :=
  step.compensation.isSome = true ∧
    (step = failed ∨ .text step.id ∈ inst.completed ∧ inst.definition.step? step.id = some step)

section Order

variable {inst : Instance} {failed step : Step}

theorem Value.text?_eq_some {value : Value} {id : String} : value.text? = some id ↔ value = .text id := by
  constructor
  · intro same
    unfold Value.text? at same
    split at same
    · cases same
      rfl
    · cases same
  · rintro rfl
    rfl

theorem mem_texts {id : String} {values : List Value} :
    id ∈ values.filterMap Value.text? ↔ .text id ∈ values := by
  simp [List.mem_filterMap, Value.text?_eq_some]

theorem mem_compensationOrder (keyed : inst.definition.Keyed)
    (declared : inst.definition.step? failed.id = some failed) :
    step ∈ compensationOrder inst failed ↔ inst.ToUndo failed step := by
  have named : ∀ id, id ∈ firstOccurrences
      (failed.id :: inst.completed.reverse.filterMap Value.text?) ↔
        id = failed.id ∨ .text id ∈ inst.completed := by
    intro id
    rw [mem_firstOccurrences, List.mem_cons, mem_texts, List.mem_reverse]
  simp only [compensationOrder, List.mem_filter, List.mem_filterMap, named]
  constructor
  · rintro ⟨⟨id, among, found⟩, reversible⟩
    obtain rfl := keyed.id_of_step? found
    refine ⟨reversible, ?_⟩
    rcases among with same | completed
    · rw [same, declared] at found
      exact .inl (Option.some.inj found).symm
    · exact .inr ⟨completed, found⟩
  · rintro ⟨reversible, same | ⟨completed, found⟩⟩
    · rw [same] at reversible ⊢
      exact ⟨⟨failed.id, .inl rfl, declared⟩, reversible⟩
    · exact ⟨⟨step.id, .inr completed, found⟩, reversible⟩

theorem nodup_compensationOrder (keyed : inst.definition.Keyed) :
    (compensationOrder inst failed).Nodup := by
  apply List.Nodup.filter
  apply List.Nodup.filterMap _ (nodup_firstOccurrences _)
  intro id other step found again
  exact (keyed.id_of_step? found).symm.trans (keyed.id_of_step? again)

end Order

/-! ## How they are undone -/

/-- What is asked to undo a step, and told of it. -/
inductive Runner.Undoes (runner : Runner) (inst : Instance) (step : Step) :
    List Request.Answered → Prop where
  | unregistered {action : String} {config : Dict} :
      step.compensation = some action → renderParameters inst step = .ok config →
      runner.actions.contains action = false →
      Undoes runner inst step
        [⟨.log ⟨.error, compensationLine inst step action "raised"⟩, ()⟩]
  | unmade {action : String} {config : Dict} {failure : Failure} :
      step.compensation = some action → renderParameters inst step = .ok config →
      runner.actions.contains action = true →
      Undoes runner inst step
        [⟨.make ⟨.compensation, action, runner.context inst step config⟩, .error failure⟩,
          ⟨.log ⟨.error, compensationLine inst step action "raised"⟩, ()⟩]
  | raised {action : String} {config : Dict} {failure : Failure} :
      step.compensation = some action → renderParameters inst step = .ok config →
      runner.actions.contains action = true →
      Undoes runner inst step
        [⟨.make ⟨.compensation, action, runner.context inst step config⟩, .ok ()⟩,
          ⟨.perform ⟨.compensation, action, runner.context inst step config⟩, .error failure⟩,
          ⟨.log ⟨.error, compensationLine inst step action "raised"⟩, ()⟩]
  | replied {action : String} {config : Dict} {reply : Reply} :
      step.compensation = some action → renderParameters inst step = .ok config →
      runner.actions.contains action = true →
      Undoes runner inst step
        [⟨.make ⟨.compensation, action, runner.context inst step config⟩, .ok ()⟩,
          ⟨.perform ⟨.compensation, action, runner.context inst step config⟩, .ok reply⟩,
          ⟨.log (compensationRecord inst step action reply), ()⟩]

/-- Steps are undone one after the other, up to the first whose parameters cannot be rendered. -/
inductive Runner.Compensates (runner : Runner) (inst : Instance) :
    List Step → List Request.Answered → Except Failure Unit → Prop where
  | done : Compensates runner inst [] [] (.ok ())
  | unrendered {step : Step} {pending : List Step} {failure : Failure} :
      renderParameters inst step = .error failure →
      Compensates runner inst (step :: pending) [] (.error failure)
  | undoes {step : Step} {pending : List Step} {undoing others : List Request.Answered}
      {result : Except Failure Unit} :
      runner.Undoes inst step undoing → Compensates runner inst pending others result →
      Compensates runner inst (step :: pending) (undoing ++ others) result

section Undoing

variable {σ : Type} {world : World σ} {runner : Runner} {inst : Instance} {step : Step}
variable {state final : σ} {exchanges : List Request.Answered}

theorem performCompensation_ends {action : String} {context : Context}
    {reply : Except Failure Reply}
    (ended : Ends world (runner.performCompensation action step context) state exchanges reply
      final) :
    runner.actions.contains action = false ∧ exchanges = [] ∧
        reply = .error (runner.actionNotFound action step) ∨
      runner.actions.contains action = true ∧
        ((∃ failure, exchanges = [⟨.make ⟨.compensation, action, context⟩, .error failure⟩] ∧
            reply = .error failure) ∨
          exchanges = [⟨.make ⟨.compensation, action, context⟩, .ok ()⟩,
            ⟨.perform ⟨.compensation, action, context⟩, reply⟩]) := by
  simp only [Runner.performCompensation] at ended
  cases registered : runner.actions.contains action with
  | false =>
      simp only [registered, Bool.not_false, ↓reduceIte] at ended
      rcases ends_done.mp ended with ⟨rfl, rfl, rfl⟩
      exact .inl ⟨rfl, rfl, rfl⟩
  | true =>
      simp only [registered, Bool.not_true, Bool.false_eq_true, ↓reduceIte] at ended
      rcases ends_ask.mp ended with ⟨made, _, rest, rfl, _, ended⟩
      rw [done_bind] at ended
      cases made with
      | error failure =>
          rcases ends_done.mp ended with ⟨rfl, rfl, rfl⟩
          exact .inr ⟨rfl, .inl ⟨failure, rfl, rfl⟩⟩
      | ok _ =>
          rcases ends_ask.mp ended with ⟨answer, _, rest, rfl, _, ended⟩
          rcases ends_done.mp ended with ⟨rfl, rfl, rfl⟩
          exact .inr ⟨rfl, .inr rfl⟩

theorem compensate_ends {steps : List Step} {result : Except Failure Unit}
    (reversible : ∀ step ∈ steps, step.compensation.isSome = true)
    (ended : Ends world (runner.compensate inst steps) state exchanges result final) :
    runner.Compensates inst steps exchanges result := by
  induction steps generalizing state exchanges with
  | nil =>
      rcases ends_done.mp ended with ⟨rfl, rfl, rfl⟩
      exact .done
  | cons step pending ih =>
      have others : ∀ undone ∈ pending, undone.compensation.isSome = true :=
        fun undone member => reversible undone (List.mem_cons_of_mem step member)
      rcases Option.isSome_iff_exists.mp (reversible step List.mem_cons_self) with ⟨action, undoes⟩
      simp only [Runner.compensate, undoes] at ended
      cases renders : renderParameters inst step with
      | error failure =>
          simp only [renders] at ended
          rcases ends_done.mp ended with ⟨rfl, rfl, rfl⟩
          exact .unrendered renders
      | ok config =>
          simp only [renders] at ended
          rcases ends_bind.mp ended with ⟨asked, reply, _, rest, rfl, performs, tells⟩
          rcases performCompensation_ends performs with
            ⟨missing, rfl, rfl⟩ | ⟨registered, ⟨failure, rfl, rfl⟩ | rfl⟩
          · rcases ends_ask.mp tells with ⟨⟨⟩, _, rest, rfl, _, tells⟩
            have onward := ih others tells
            simpa using .undoes (.unregistered undoes renders missing) onward
          · rcases ends_ask.mp tells with ⟨⟨⟩, _, rest, rfl, _, tells⟩
            have onward := ih others tells
            simpa using .undoes (.unmade undoes renders registered) onward
          · cases reply with
            | error failure =>
                rcases ends_ask.mp tells with ⟨⟨⟩, _, rest, rfl, _, tells⟩
                have onward := ih others tells
                simpa using .undoes (.raised undoes renders registered) onward
            | ok reply =>
                rcases ends_ask.mp tells with ⟨⟨⟩, _, rest, rfl, _, tells⟩
                have onward := ih others tells
                simpa using .undoes (.replied undoes renders registered) onward

theorem Runner.Undoes.savesOnly {given : Instance → Prop} {undoing : List Request.Answered}
    (undoes : runner.Undoes inst step undoing) : SavesOnly given undoing := by
  cases undoes with
  | unregistered | unmade | raised | replied => exact savesOnly_nil

/-- Undoing steps saves nothing. -/
theorem Runner.Compensates.savesOnly {given : Instance → Prop} {steps : List Step}
    {result : Except Failure Unit} (compensates : runner.Compensates inst steps exchanges result) :
    SavesOnly given exchanges := by
  induction compensates with
  | done | unrendered => exact savesOnly_nil
  | undoes undoes _ ih => exact savesOnly_append.mpr ⟨undoes.savesOnly, ih⟩

/-- The instance after a step failed for good. -/
def Runner.marked (runner : Runner) (inst : Instance) (step : Step) (error : StepError) :
    Instance :=
  { inst with
    failures := inst.failures ++ [⟨step.id, error.message, runner.now⟩]
    updatedAt := runner.now }

/-- When a step fails, steps are undone, and then the instance is saved as failed unless something
got in the way. -/
theorem failStep_ends {error : StepError} {ending : FailingEnd} (running : inst.state = .running)
    (ended : Ends world (runner.failStep inst step error) state exchanges ending final) :
    let marked := runner.marked inst step error
    let last := runner.failed marked error.message
    ∃ logged undone, Idle logged ∧
      ((∃ failure, exchanges = logged ++ undone ∧
          runner.Compensates marked (compensationOrder marked step) undone (.error failure) ∧
          ending = .raised marked failure) ∨
        ∃ kept between middle told, Idle told ∧
          exchanges = logged ++ (undone ++ ⟨.save last, kept⟩ :: told) ∧
          runner.Compensates marked (compensationOrder marked step) undone (.ok ()) ∧
          world (.save last) between kept middle ∧
          (kept = .ok () → Ends world (emit (runner.event last (.failed error.message
            error.context))) middle told () final) ∧
          ending = runner.afterFailing marked error.message kept) := by
  intro marked last
  have marks : inst.markFailed step.id error.message runner.now = .ok marked :=
    Instance.markFailed_eq_ok.mpr ⟨active_of_running running, rfl⟩
  have reversible : ∀ undone ∈ compensationOrder marked step, undone.compensation.isSome = true :=
    fun undone member => (List.mem_filter.mp member).2
  rcases ends_bind.mp ended with ⟨logged, _, _, rest, rfl, logs, fails⟩
  simp only [marks] at fails
  rcases ends_bind.mp fails with ⟨undone, result, between, rest, rfl, undoes, closes⟩
  have compensates := compensate_ends reversible undoes
  refine ⟨logged, undone, idle_log logs, ?_⟩
  cases result with
  | error failure =>
      rcases ends_done.mp closes with ⟨rfl, rfl, rfl⟩
      exact .inl ⟨failure, by simp, compensates, rfl⟩
  | ok _ =>
      have stays : marked.state = .running := running
      rcases finalizeFailure_ends stays closes with
        ⟨kept, middle, told, rfl, saved, idle, tells, rfl⟩
      exact .inr ⟨kept, between, middle, told, idle, rfl, compensates, saved, tells, rfl⟩

end Undoing

/-! ## Runs in which a step fails -/

/-- Whether a request is made to undo a step. -/
def Request.undoes : Request → Bool
  | .make invocation | .permits invocation | .perform invocation =>
    invocation.purpose = .compensation
  | _ => false

/-- No step is undone, and what is saved has these failures of steps and no other. -/
structure Untroubled (failures : List StepFailure) (exchanges : List Request.Answered) : Prop where
  forward : ∀ exchange ∈ exchanges, exchange.request.undoes = false
  unmarked : SavesOnly (·.failures = failures) exchanges

namespace Untroubled

variable {failures : List StepFailure} {exchanges others : List Request.Answered}

@[simp] theorem save_iff {saved : Instance} {kept : Except Failure Unit} :
    Untroubled failures (⟨.save saved, kept⟩ :: others) ↔
      saved.failures = failures ∧ Untroubled failures others := by
  constructor
  · rintro ⟨forward, unmarked⟩
    have unmarked := savesOnly_save.mp unmarked
    exact ⟨unmarked.1, (List.forall_mem_cons.mp forward).2, unmarked.2⟩
  · rintro ⟨same, forward, unmarked⟩
    exact ⟨List.forall_mem_cons.mpr ⟨rfl, forward⟩, savesOnly_save.mpr ⟨same, unmarked⟩⟩

@[simp] theorem nil : Untroubled failures [] :=
  ⟨by simp, savesOnly_nil⟩

end Untroubled

section Failing

variable {σ : Type} {world : World σ} {runner : Runner} {inst : Instance}
variable {state final : σ} {exchanges : List Request.Answered}

end Failing

section Store

variable {σ : Type} {records : Records σ} {actors : Actors σ} {runner : Runner} {inst : Instance}
variable {state final : σ} {exchanges : List Request.Answered}

end Store

/-! ## A step that is undone, and one whose parameters can no longer be rendered -/

/-- Actions that fail, and succeed at undoing. -/
def Deeds.failing : Deeds MemoryStore where
  perform invocation store :=
    let result : ActionResult := match invocation.purpose with
      | .attempt _ => ⟨false, some "boom", [], []⟩
      | .compensation => .succeed []
    (.ok (.result result), store)

/-- A definition whose second step has parameters that its own result makes impossible to render. -/
def Definition.noted : Definition :=
  ⟨"noted", "1.0",
    [("a", { Step.named "a" with action := some "act", compensation := some "undo" }),
      ("b", { Step.named "b" with
        action := some "act"
        parameters := Dict.ofFields [("note", .text "\x7bitems.--1\x7d")]
        compensation := some "undo" }),
      ("c", { Step.named "c" with action := some "act" })],
    [⟨"a", "b", none, []⟩, ⟨"b", "c", none, []⟩], []⟩

end Workflow
