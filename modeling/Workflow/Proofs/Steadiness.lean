import Mathlib.Logic.Relation
import Workflow.Proofs.Route

/-!
# Attempts that are not made again

Within the execution of a step nothing is attempted once the action has succeeded.  A run may come
to the step again, though.  Where it goes on along leads that make up no cycle, or by an exchange
that renews the steps, it makes another attempt for a step that has succeeded only after such an
exchange.
-/

namespace Workflow

open Proc Relation

/-! ## Relations without cycles -/

/-- Nothing leads back to itself. -/
def Acyclic {α : Type} (leads : α → α → Prop) : Prop :=
  ∀ item, ¬ TransGen leads item item

section Cycles

variable {α : Type} {leads : α → α → Prop}

/-- What leads upwards does not lead back. -/
theorem acyclic_of_rank (rank : α → Nat)
    (rises : ∀ item next, leads item next → rank item < rank next) : Acyclic leads := by
  have climbs : ∀ item last, TransGen leads item last → rank item < rank last := by
    intro item last along
    induction along with
    | single step => exact rises _ _ step
    | tail _ step ih => exact ih.trans (rises _ _ step)
  intro item around
  exact Nat.lt_irrefl _ (climbs item item around)

theorem Acyclic.mono {fewer : α → α → Prop} (acyclic : Acyclic leads)
    (among : ∀ item next, fewer item next → leads item next) : Acyclic fewer :=
  fun item around => acyclic item (TransGen.mono among item item around)

/-- A walk comes to nothing twice. -/
theorem Acyclic.nodup_of_isChain {items : List α} (acyclic : Acyclic leads)
    (chain : items.IsChain leads) : items.Nodup := by
  have along : items.Pairwise (TransGen leads) :=
    (chain.imp fun _ _ => TransGen.single).pairwise
  refine along.imp fun {item last} leading same => ?_
  rw [same] at leading
  exact acyclic last leading

end Cycles

/-! ## Steady exchanges -/

/-- The id of the step that an attempt is made for. -/
def Invocation.attempted? (invocation : Invocation) : Option String :=
  match invocation.purpose with
  | .attempt _ => some invocation.context.stepId
  | .compensation => none

/-- The id of the step that an attempt is made for in an exchange. -/
def Request.Answered.attempted? (exchange : Request.Answered) : Option String :=
  match exchange.request with
  | .permits invocation | .perform invocation => invocation.attempted?
  | _ => none

/-- The id of the step whose action succeeds in an exchange. -/
def Request.Answered.succeeded? (exchange : Request.Answered) : Option String :=
  exchange.success?.bind fun success => success.1.attempted?

/-- All attempts are made for steps whose ids are as given. -/
def AttemptsOnly (given : String → Prop) (exchanges : List Request.Answered) : Prop :=
  ∀ id ∈ exchanges.filterMap (·.attempted?), given id

/-- No attempt is made for a step after its action has succeeded. -/
def Steady (exchanges : List Request.Answered) : Prop :=
  exchanges.Pairwise fun success use =>
    ∀ id, success.succeeded? = some id → use.attempted? ≠ some id

instance (exchanges : List Request.Answered) : Decidable (Steady exchanges) :=
  decidable_of_iff
    (exchanges.Pairwise fun success use =>
      success.succeeded? = none ∨ use.attempted? ≠ success.succeeded?) <| by
    refine List.Pairwise.iff fun success use => ?_
    cases success.succeeded? <;> simp

/-- All attempts are made for one step, and none after its action has succeeded. -/
structure SteadyAt (id : String) (exchanges : List Request.Answered) : Prop where
  only : AttemptsOnly (· = id) exchanges
  steady : Steady exchanges

/-- Up to the first exchange that renews it, no attempt is made for a step. -/
def Unattempted (renews : Request.Answered → Prop) (id : String) : List Request.Answered → Prop
  | [] => True
  | exchange :: rest =>
    exchange.attempted? ≠ some id ∧ (renews exchange ∨ Unattempted renews id rest)

/-- After the action of a step has succeeded, no attempt is made for the step before an exchange
that renews it. -/
def Renewed (renews : Request.Answered → Prop) : List Request.Answered → Prop
  | [] => True
  | exchange :: rest =>
    (∀ id, exchange.succeeded? = some id → Unattempted renews id rest) ∧ Renewed renews rest

section Exchanges

variable {given : String → Prop} {exchanges others : List Request.Answered} {id : String}
variable {renews : Request.Answered → Prop}

@[simp] theorem attemptsOnly_nil : AttemptsOnly given [] := by
  simp [AttemptsOnly]

@[simp] theorem attemptsOnly_append :
    AttemptsOnly given (exchanges ++ others) ↔
      AttemptsOnly given exchanges ∧ AttemptsOnly given others := by
  rw [AttemptsOnly, List.filterMap_append]
  exact List.forall_mem_append

@[simp] theorem attemptsOnly_cons {exchange : Request.Answered} :
    AttemptsOnly given (exchange :: exchanges) ↔
      (∀ id, exchange.attempted? = some id → given id) ∧ AttemptsOnly given exchanges := by
  cases attempts : exchange.attempted? <;> simp [AttemptsOnly, attempts]

theorem AttemptsOnly.mono {weaker : String → Prop} (only : AttemptsOnly given exchanges)
    (weakens : ∀ id, given id → weaker id) : AttemptsOnly weaker exchanges :=
  fun id member => weakens id (only id member)

/-- Nothing is attempted in an idle exchange. -/
theorem Idle.untried (idle : Idle exchanges) : AttemptsOnly (fun _ => False) exchanges := by
  intro id member
  rcases List.mem_filterMap.mp member with ⟨exchange, inside, attempts⟩
  have idles := idle exchange inside
  rcases exchange with ⟨request, answer⟩
  cases request with
  | permits | perform => cases idles
  | _ => cases attempts

/-- Whose action succeeds, for it an attempt was made. -/
theorem attempted?_of_succeeded? {exchange : Request.Answered}
    (succeeds : exchange.succeeded? = some id) : exchange.attempted? = some id := by
  rcases exchange with ⟨request, answer⟩
  cases request with
  | perform invocation =>
      rcases Option.bind_eq_some_iff.mp succeeds with ⟨success, made, attempts⟩
      simp only [Request.Answered.success?] at made
      split at made
      · split at made
        · next same _ =>
            cases made
            cases same
            exact attempts
        · cases made
      · cases made
  | _ => cases succeeds

theorem steady_nil : Steady [] :=
  .nil

/-- Attempts go on after others that did not succeed for the same steps. -/
theorem Steady.append (steady : Steady exchanges) (onward : Steady others)
    (apart : ∀ id ∈ exchanges.filterMap (·.succeeded?), AttemptsOnly (· ≠ id) others) :
    Steady (exchanges ++ others) := by
  refine List.pairwise_append.mpr ⟨steady, onward, fun success earlier use later id made => ?_⟩
  intro attempts
  have made := List.mem_filterMap.mpr ⟨success, earlier, made⟩
  exact apart id made id (List.mem_filterMap.mpr ⟨use, later, attempts⟩) rfl

theorem not_mem_succeeded (untried : AttemptsOnly (fun _ => False) exchanges) :
    id ∉ exchanges.filterMap (·.succeeded?) := by
  intro member
  rcases List.mem_filterMap.mp member with ⟨success, inside, made⟩
  exact untried id (List.mem_filterMap.mpr ⟨success, inside, attempted?_of_succeeded? made⟩)

theorem steady_of_untried (untried : AttemptsOnly (fun _ => False) exchanges) :
    Steady exchanges := by
  refine List.pairwise_iff_forall_sublist.mpr fun {success use} within id made => ?_
  have member : success ∈ exchanges := within.subset List.mem_cons_self
  exact absurd (List.mem_filterMap.mpr ⟨success, member, made⟩) (not_mem_succeeded untried)

namespace SteadyAt

theorem of_untried (untried : AttemptsOnly (fun _ => False) exchanges) : SteadyAt id exchanges :=
  ⟨untried.mono fun _ => False.elim, steady_of_untried untried⟩

theorem append_untried (steady : SteadyAt id exchanges)
    (untried : AttemptsOnly (fun _ => False) others) : SteadyAt id (exchanges ++ others) where
  only := attemptsOnly_append.mpr ⟨steady.only, untried.mono fun _ => False.elim⟩
  steady := steady.steady.append (steady_of_untried untried) fun _ _ =>
    untried.mono fun _ => False.elim

theorem untried_append (untried : AttemptsOnly (fun _ => False) exchanges)
    (steady : SteadyAt id others) : SteadyAt id (exchanges ++ others) where
  only := attemptsOnly_append.mpr ⟨untried.mono fun _ => False.elim, steady.only⟩
  steady := (steady_of_untried untried).append steady.steady fun _ member =>
    absurd member (not_mem_succeeded untried)

end SteadyAt

theorem unattempted_of_attemptsOnly (only : AttemptsOnly (· ≠ id) exchanges) :
    Unattempted renews id exchanges := by
  induction exchanges with
  | nil => trivial
  | cons exchange rest ih =>
      rcases attemptsOnly_cons.mp only with ⟨here, later⟩
      exact ⟨fun attempts => here id attempts rfl, .inr (ih later)⟩

theorem Unattempted.append (only : AttemptsOnly (· ≠ id) exchanges)
    (onward : (∃ renewing ∈ exchanges, renews renewing) ∨ Unattempted renews id others) :
    Unattempted renews id (exchanges ++ others) := by
  induction exchanges with
  | nil =>
      rcases onward with ⟨_, ⟨⟩, _⟩ | onward
      exact onward
  | cons exchange rest ih =>
      rcases attemptsOnly_cons.mp only with ⟨here, later⟩
      refine ⟨fun attempts => here id attempts rfl, ?_⟩
      rcases onward with ⟨renewing, member, renewed⟩ | onward
      · rcases List.mem_cons.mp member with rfl | member
        · exact .inl renewed
        · exact .inr (ih later (.inl ⟨renewing, member, renewed⟩))
      · exact .inr (ih later (.inr onward))

/-- A steady stretch goes on with a renewed one in which nothing is attempted that has succeeded. -/
theorem Steady.renewed_append (steady : Steady exchanges) (onward : Renewed renews others)
    (apart : ∀ id ∈ exchanges.filterMap (·.succeeded?), Unattempted renews id others) :
    Renewed renews (exchanges ++ others) := by
  induction exchanges with
  | nil => exact onward
  | cons exchange rest ih =>
      rcases List.pairwise_cons.mp steady with ⟨here, later⟩
      refine ⟨fun id made => ?_, ih later fun id member => ?_⟩
      · refine .append ?_ (.inr (apart id ?_))
        · intro other member same
          rcases List.mem_filterMap.mp member with ⟨use, inside, attempts⟩
          rw [same] at attempts
          exact here use inside id made attempts
        · exact List.mem_filterMap.mpr ⟨exchange, List.mem_cons_self, made⟩
      · apply apart
        rw [List.filterMap_cons]
        split
        · exact member
        · exact List.mem_cons_of_mem _ member

theorem Steady.renewed (steady : Steady exchanges) : Renewed renews exchanges := by
  have whole : Renewed renews (exchanges ++ []) :=
    steady.renewed_append trivial fun _ _ => trivial
  rwa [List.append_nil] at whole

theorem Unattempted.append_untried (unattempted : Unattempted renews id exchanges)
    (untried : AttemptsOnly (fun _ => False) others) :
    Unattempted renews id (exchanges ++ others) := by
  induction exchanges with
  | nil => exact unattempted_of_attemptsOnly (untried.mono fun _ => False.elim)
  | cons exchange rest ih => exact ⟨unattempted.1, unattempted.2.imp_right ih⟩

theorem Renewed.append_untried (renewed : Renewed renews exchanges)
    (untried : AttemptsOnly (fun _ => False) others) : Renewed renews (exchanges ++ others) := by
  induction exchanges with
  | nil => exact (steady_of_untried untried).renewed
  | cons exchange rest ih =>
      exact ⟨fun id made => (renewed.1 id made).append_untried untried, ih renewed.2⟩

/-- Where nothing renews a step, no attempt is made for it after its action has succeeded. -/
theorem steady_of_renewed (renewed : Renewed (fun _ => False) exchanges) : Steady exchanges := by
  have unattempted : ∀ {id} {rest : List Request.Answered},
      Unattempted (fun _ => False) id rest → ∀ use ∈ rest, use.attempted? ≠ some id := by
    intro id rest unattempted
    induction rest with
    | nil => simp
    | cons use rest ih =>
        rcases unattempted with ⟨here, renewed | later⟩
        · exact renewed.elim
        · exact List.forall_mem_cons.mpr ⟨here, ih later⟩
  induction exchanges with
  | nil => exact steady_nil
  | cons exchange rest ih =>
      rcases renewed with ⟨here, later⟩
      exact List.pairwise_cons.mpr ⟨fun use member id made => unattempted (here id made) use member,
        ih later⟩

end Exchanges

/-! ## Executions of steps -/

section Executions

variable {σ : Type} {world : World σ} {runner : Runner} {inst : Instance} {step : Step}
variable {state final : σ} {exchanges : List Request.Answered} {action : String}
variable {context : Context}

theorem attemptOnce_steadyAt {attempt : Nat} {outcome : Except StepError ActionResult}
    (ended : Ends world (attemptOnce step action context attempt) state exchanges outcome final) :
    SteadyAt context.stepId exchanges := by
  rcases ends_ask.mp ended with ⟨permits, _, rest, rfl, _, ended⟩
  match permits with
  | .error _ | .ok false =>
      rcases ends_done.mp ended with ⟨rfl, _, _⟩
      refine ⟨?_, List.pairwise_singleton _ _⟩
      simp [Request.Answered.attempted?, Invocation.attempted?]
  | .ok true =>
      rcases ends_ask.mp ended with ⟨answer, _, rest, rfl, _, ended⟩
      have whole : rest = [] := by
        match answer with
        | .error _ | .ok _ => exact (ends_done.mp ended).1
      subst whole
      refine ⟨?_, List.pairwise_pair.mpr ?_⟩
      · simp [Request.Answered.attempted?, Invocation.attempted?]
      · rintro id ⟨⟩

/-- An attempt that fails is no success. -/
theorem attemptOnce_failed {attempt : Nat} {error : StepError}
    (ended : Ends world (attemptOnce step action context attempt) state exchanges (.error error)
      final) :
    exchanges.filterMap (·.succeeded?) = [] := by
  have unsuccessful : exchanges.filterMap (·.success?) = [] := (attemptOnce_ends ended).2
  refine List.filterMap_eq_nil_iff.mpr fun exchange member => ?_
  rw [Request.Answered.succeeded?, List.filterMap_eq_nil_iff.mp unsuccessful exchange member]
  rfl

theorem Runner.Tries.steadyAt {fuel attempt : Nat} {ending : AttemptsEnd}
    (tries : runner.Tries world inst step action context fuel attempt state exchanges ending
      final) :
    SteadyAt context.stepId exchanges := by
  induction tries with
  | interrupted tries looks | unlooked tries looks | succeeded tries looks =>
      exact (attemptOnce_steadyAt tries).append_untried (idle_checkInterrupted looks).untried
  | failed tries looks tells =>
      refine (attemptOnce_steadyAt tries).append_untried (Idle.untried ?_)
      simp [idle_checkInterrupted looks, idle_emit tells]
  | unwaited tries looks tells _ logs waits =>
      refine (attemptOnce_steadyAt tries).append_untried (Idle.untried ?_)
      simp [idle_checkInterrupted looks, idle_emit tells, idle_log logs, idle_wait waits]
  | @again _ _ _ _ _ _ _ _ _ tried looked told logged waited rest _ _ _ tries looks tells _ logs
      waits _ ih =>
      have idle : Idle (looked ++ (told ++ (logged ++ waited))) := by
        simp [idle_checkInterrupted looks, idle_emit tells, idle_log logs, idle_wait waits]
      have onward := SteadyAt.untried_append idle.untried ih
      have failed := attemptOnce_failed tries
      rcases attemptOnce_steadyAt tries with ⟨only, steady⟩
      have whole := steady.append onward.steady fun id member => by simp [failed] at member
      refine ⟨attemptsOnly_append.mpr ⟨only, ?_⟩, ?_⟩
      · simpa using onward.only
      · simpa using whole

/-- Of an action attempts are made one after the other, or none at all. -/
theorem act_tries {config : Dict} {ending : StepEnd} (active : inst.state.isTerminal = false)
    (ended : Ends world (runner.act inst step action config) state exchanges ending final) :
    AttemptsOnly (fun _ => False) exchanges ∨
      ∃ made attempted closing fuel outcome start last,
        exchanges = made :: (attempted ++ closing) ∧ made.attempted? = none ∧
        runner.Tries world inst step action (runner.context inst step config) fuel 1 start attempted
          outcome last ∧
        AttemptsOnly (fun _ => False) closing := by
  simp only [Runner.act] at ended
  split at ended
  · rw [(ends_done.mp ended).1]
    exact .inl attemptsOnly_nil
  · rcases ends_ask.mp ended with ⟨made, _, rest, rfl, _, ended⟩
    rw [done_bind] at ended
    cases made with
    | error failure =>
        have whole : rest = [] := by
          split at ended
          · exact (ends_done.mp ended).1
          · exact (ends_done.mp ended).1
          · contradiction
        rw [whole]
        refine .inl ?_
        rintro id ⟨⟩
    | ok _ =>
        rcases ends_bind.mp ended with ⟨attempted, outcome, _, rest, rfl, attempts, ended⟩
        refine .inr ⟨_, attempted, rest, _, outcome, _, _, rfl, rfl, tries_of_ends attempts, ?_⟩
        cases outcome with
        | succeeded result => exact (complete_ends active ended).1.untried
        | failed error | stopped stored | raised failure =>
            rw [(ends_done.mp ended).1]
            exact attemptsOnly_nil

/-- Of a step attempts are made one after the other, for the instance that it is executed for, or
none at all. -/
theorem executeStep_tries {ending : StepEnd} (active : inst.state.isTerminal = false)
    (ended : Ends world (runner.executeStep inst step) state exchanges ending final) :
    AttemptsOnly (fun _ => False) exchanges ∨
      ∃ opening attempted closing action config fuel outcome start last,
        exchanges = opening ++ (attempted ++ closing) ∧
        AttemptsOnly (fun _ => False) opening ∧ AttemptsOnly (fun _ => False) closing ∧
        runner.Tries world inst step action (runner.context inst step config) fuel 1 start attempted
          outcome last := by
  simp only [Runner.executeStep] at ended
  split at ended
  · rw [(ends_done.mp ended).1]
    exact .inl attemptsOnly_nil
  · exact .inl (declineStep_ends active ended).1.untried
  · rcases ends_bind.mp ended with ⟨logged, _, _, rest, rfl, logs, ended⟩
    have logs := (idle_log logs).untried
    split at ended
    · rw [(ends_done.mp ended).1]
      exact .inl (attemptsOnly_append.mpr ⟨logs, attemptsOnly_nil⟩)
    · split at ended
      · exact .inl (attemptsOnly_append.mpr ⟨logs, (complete_ends active ended).1.untried⟩)
      · rcases act_tries active ended with
          untried | ⟨made, attempted, closing, _, _, _, _, rfl, unmade, tries, closes⟩
        · exact .inl (attemptsOnly_append.mpr ⟨logs, untried⟩)
        · refine .inr ⟨logged ++ [made], attempted, closing, _, _, _, _, _, _, by simp, ?_, closes,
            tries⟩
          simp [logs, unmade]

/-- Attempts are made for the step that is executed, and none after its action has succeeded. -/
theorem executeStep_steadyAt {ending : StepEnd} (active : inst.state.isTerminal = false)
    (ended : Ends world (runner.executeStep inst step) state exchanges ending final) :
    SteadyAt step.id exchanges := by
  rcases executeStep_tries active ended with
    untried | ⟨_, _, _, _, _, _, _, _, _, rfl, opens, closes, tries⟩
  · exact .of_untried untried
  · exact .untried_append opens (tries.steadyAt.append_untried closes)

theorem attempted?_save (saved : Instance) (kept : Except Failure Unit) :
    (⟨.save saved, kept⟩ : Request.Answered).attempted? = none :=
  rfl

theorem Runner.Undoes.untried {undoing : List Request.Answered}
    (undoes : runner.Undoes inst step undoing) : AttemptsOnly (fun _ => False) undoing := by
  cases undoes with
  | unregistered | unmade | raised | replied => rintro id ⟨⟩

/-- No attempt is made while steps are undone. -/
theorem Runner.Compensates.untried {steps : List Step} {result : Except Failure Unit}
    (compensates : runner.Compensates inst steps exchanges result) :
    AttemptsOnly (fun _ => False) exchanges := by
  induction compensates with
  | done | unrendered => exact attemptsOnly_nil
  | undoes undoes _ ih => exact attemptsOnly_append.mpr ⟨undoes.untried, ih⟩

theorem failStep_untried {error : StepError} {ending : FailingEnd} (running : inst.state = .running)
    (ended : Ends world (runner.failStep inst step error) state exchanges ending final) :
    AttemptsOnly (fun _ => False) exchanges := by
  rcases failStep_ends running ended with ⟨logged, undone, logs, failing⟩
  rcases failing with ⟨failure, rfl, compensates, rfl⟩ |
    ⟨kept, _, _, told, tells, rfl, compensates, _, _, _⟩
  · simp [logs.untried, compensates.untried]
  · simp [logs.untried, compensates.untried, tells.untried, attempted?_save]

theorem Runner.Enters.untried {key : String}
    (enters : runner.Enters world inst key step state exchanges final) :
    AttemptsOnly (fun _ => False) exchanges := by
  cases enters with
  | saved _ looks _ => simp [(idle_checkInterrupted looks).untried, attempted?_save]

/-- Where a run halts, attempts are made only while it executes the step that it halts at. -/
theorem Runner.Halts.visits {remaining : Nat} {key : String} {ending : StepsEnd}
    (running : inst.state = .running)
    (halts : runner.Halts world inst key state remaining exchanges ending final) :
    AttemptsOnly (fun _ => False) exchanges ∨
      ∃ step entry course closing middle executed between,
        exchanges = entry ++ course ++ closing ∧
        runner.Enters world inst key step state entry middle ∧
        Ends world (runner.executeStep (runner.moved inst key) step) middle course executed
          between ∧
        AttemptsOnly (fun _ => False) closing := by
  cases halts with
  | interrupted looks | unlooked looks | unknown looks _ =>
      exact .inl (idle_checkInterrupted looks).untried
  | exceeded looks _ exceeds =>
      rcases exceedLimit_ends running exceeds with
        ⟨logged, kept, _, _, told, logs, tells, rfl, _, _⟩
      refine .inl ?_
      simp [(idle_checkInterrupted looks).untried, logs.untried, tells.untried, attempted?_save]
  | unentered looks _ _ =>
      refine .inl ?_
      simp [(idle_checkInterrupted looks).untried, attempted?_save]
  | failed enters executes fails =>
      have stays : (runner.moved inst key).state = .running := running
      exact .inr ⟨_, _, _, _, _, _, _, (List.append_assoc _ _ _).symm, enters, executes,
        failStep_untried stays fails⟩
  | stopped enters executes | raised enters executes =>
      exact .inr ⟨_, _, _, [], _, _, _, (List.append_nil _).symm, enters, executes,
        attemptsOnly_nil⟩

/-- When a run executes the step under a key, attempts are made for that step. -/
theorem visit_steadyAt {key : String} {entry course : List Request.Answered} {middle : σ}
    {ending : StepEnd} (running : inst.state = .running) (keyed : inst.definition.Keyed)
    (enters : runner.Enters world inst key step state entry middle)
    (executes : Ends world (runner.executeStep (runner.moved inst key) step) middle course ending
      final) :
    SteadyAt key (entry ++ course) := by
  have active : (runner.moved inst key).state.isTerminal = false := active_of_running running
  have found : inst.definition.step? key = some step := by
    cases enters
    assumption
  have steady := executeStep_steadyAt active executes
  rw [keyed.id_of_step? found] at steady
  exact .untried_append enters.untried steady

theorem Runner.Halts.steadyAt {remaining : Nat} {key : String} {ending : StepsEnd}
    (running : inst.state = .running) (keyed : inst.definition.Keyed)
    (halts : runner.Halts world inst key state remaining exchanges ending final) :
    SteadyAt key exchanges := by
  rcases halts.visits running with
    untried | ⟨_, _, _, _, _, _, _, rfl, enters, executes, closes⟩
  · exact .of_untried untried
  · exact (visit_steadyAt running keyed enters executes).append_untried closes

theorem Runner.Finishes.untried {key : String} {ending : StepsEnd} (running : inst.state = .running)
    (finishes : runner.Finishes world inst key state exchanges ending final) :
    AttemptsOnly (fun _ => False) exchanges := by
  cases finishes with
  | unchosen chooses => exact (selectNext_ends chooses).1.untried
  | completes chooses completes =>
      rcases completeRun_ends running completes with ⟨kept, _, told, rfl, _, tells, _⟩
      simp [(selectNext_ends chooses).1.untried, tells.untried, attempted?_save]
  | unleft chooses _ => simp [(selectNext_ends chooses).1.untried, attempted?_save]

end Executions

/-! ## Runs -/

section Runs

variable {σ : Type} {world : World σ} {runner : Runner} {inst : Instance} {definition : Definition}
variable {state final : σ} {exchanges : List Request.Answered} {leads : String → String → Prop}
variable {renews : Request.Answered → Prop}

theorem SteadyAt.unattempted {key id : String} (steady : SteadyAt key exchanges)
    (other : key ≠ id) : Unattempted renews id exchanges :=
  unattempted_of_attemptsOnly (steady.only.mono fun _ same => by rwa [same])

/-- A run goes on along leads that make up no cycle, or renews the steps.  So it makes attempts for
the steps that the leads go to, and renews a step before it makes another attempt for it. -/
theorem drives_renewed (acyclic : Acyclic leads)
    (goes : ∀ (inst : Instance) (key next : String) (choice : List Request.Answered) (state final),
      inst.definition = definition →
      Ends world (selectNext inst key) state choice (.ok (some next)) final →
      leads key next ∨ ∃ renewing ∈ choice, renews renewing)
    (keyed : definition.Keyed) {remaining : Nat} {key : String} {ending : StepsEnd}
    (same : inst.definition = definition) (running : inst.state = .running)
    (drives : runner.Drives world remaining inst key state exchanges ending final) :
    Renewed renews exchanges ∧
      ∀ id, ¬ ReflTransGen leads key id → Unattempted renews id exchanges := by
  have apart : ∀ {key id : String}, ¬ ReflTransGen leads key id → key ≠ id := by
    rintro key id unreached rfl
    exact unreached .refl
  induction drives with
  | halts halts =>
      have steady := halts.steadyAt running (same ▸ keyed)
      exact ⟨steady.steady.renewed, fun id unreached => steady.unattempted (apart unreached)⟩
  | finishes enters executes finishes =>
      have steady := visit_steadyAt running (same ▸ keyed) enters executes
      rcases sound_passage running (same ▸ keyed) enters executes savesOnly_nil with
        ⟨_, continues, _⟩
      have whole := steady.append_untried (finishes.untried (continues.state_eq.trans running))
      rw [List.append_assoc] at whole
      exact ⟨whole.steady.renewed, fun id unreached => whole.unattempted (apart unreached)⟩
  | @passes _ inst after key next step _ _ _ _ _ _ entry course choice rest _ enters executes
      chooses _ _ ih =>
      have steady := visit_steadyAt running (same ▸ keyed) enters executes
      rcases sound_passage running (same ▸ keyed) enters executes savesOnly_nil with
        ⟨_, continues, _⟩
      have sameAfter : after.definition = definition := continues.definition_eq.trans same
      rcases ih sameAfter (continues.state_eq.trans running) with ⟨renewed, unattempted⟩
      have untried : AttemptsOnly (fun _ => False)
          (choice ++ [⟨.save (runner.moved after next), .ok ()⟩]) := by
        simp [(selectNext_ends chooses).1.untried, attempted?_save]
      -- what the step does not lead to is not attempted once the run has left it
      have onward : ∀ id, ¬ TransGen leads key id → Unattempted renews id
          ((choice ++ [⟨.save (runner.moved after next), .ok ()⟩]) ++ rest) := by
        intro id unled
        refine .append (untried.mono fun _ => False.elim) ?_
        rcases goes _ _ _ _ _ _ sameAfter chooses with leading | ⟨renewing, member, renewed⟩
        · exact .inr (unattempted id fun along => unled (.head' leading along))
        · exact .inl ⟨renewing, List.mem_append_left _ member, renewed⟩
      have later := (steady_of_untried untried).renewed_append renewed
        fun _ member => absurd member (not_mem_succeeded untried)
      have whole := steady.steady.renewed_append later fun id member => by
        rcases List.mem_filterMap.mp member with ⟨success, inside, made⟩
        have attempts := List.mem_filterMap.mpr ⟨success, inside, attempted?_of_succeeded? made⟩
        rw [steady.only id attempts]
        exact onward key (acyclic key)
      refine ⟨by simpa using whole, fun id unreached => ?_⟩
      have here := steady.only.mono fun _ same => same.trans_ne (apart unreached)
      have last := onward id fun along => unreached along.to_reflTransGen
      simpa using Unattempted.append here (.inr last)

theorem conclude_untried {id : String} {ending : StepsEnd} {outcome : Except Failure Instance}
    (running : ∀ last failure, ending = .raised last failure → last.state = .running)
    (ended : Ends world (runner.conclude id ending) state exchanges outcome final) :
    AttemptsOnly (fun _ => False) exchanges := by
  cases ending with
  | finished last =>
      rw [(ends_done.mp ended).1]
      exact attemptsOnly_nil
  | stopped stored => exact (conclude_stopped_ends ended).1.untried
  | raised last failure =>
      rcases conclude_raised_ends (running last failure rfl) ended with
        ⟨logged, kept, _, _, told, logs, tells, rfl, _, _, _⟩
      simp [logs.untried, tells.untried, attempted?_save]

theorem Opens.untried {opening : List Request.Answered} (opens : Opens runner inst opening) :
    AttemptsOnly (fun _ => False) opening := by
  rcases opens with ⟨_, rfl⟩ | rfl
  · exact attemptsOnly_nil
  · simp [attempted?_save]

end Runs

section Attempting

variable {σ : Type} {records : Records σ} {actors : Actors σ} {runner : Runner} {inst : Instance}
variable {state final : σ} {exchanges : List Request.Answered}
variable {outcome : Except Failure Instance}

/-- No attempt is made once the steps of a run have ended. -/
theorem conclude_untried_of_drives {remaining : Nat} {key id : String} {ending : StepsEnd}
    {driven : List Request.Answered} {between : σ} (running : inst.state = .running)
    (keyed : inst.definition.Keyed)
    (drives : runner.Drives (records.world actors) remaining inst key state driven ending between)
    (concludes : Ends (records.world actors) (runner.conclude id ending) between exchanges outcome
      final) :
    AttemptsOnly (fun _ => False) exchanges := by
  rcases drives_route running keyed drives with ⟨_, _, _, _, _, _, accords, _⟩
  refine conclude_untried (fun last failure raised => ?_) concludes
  rw [raised] at accords
  exact accords.2.1

/-- A run that goes on as `drives_renewed` has it renews a step before it makes another attempt for
it. -/
theorem run_renewed {leads : String → String → Prop} {renews : Request.Answered → Prop}
    (acyclic : Acyclic leads)
    (goes : ∀ (other : Instance) (key next : String) (choice : List Request.Answered)
      (state final : σ), other.definition = inst.definition →
      Ends (records.world actors) (selectNext other key) state choice (.ok (some next)) final →
      leads key next ∨ ∃ renewing ∈ choice, renews renewing)
    (active : inst.state.isActive = true) (read : inst.definition.IsRead)
    (ended : Ends (records.world actors) (runner.run inst) state exchanges outcome final) :
    Renewed renews exchanges := by
  rcases run_drives active read.wellFormed.steps_ne_nil ended with
    ⟨opening, driven, closing, key, ending, _, _, rfl, opens, _, drives, concludes⟩
  have keyed : inst.definition.Keyed := read.wellFormed.id_of_mem_steps
  have sameDefinition := runner.begun_definition inst
  have running := runner.begun_state inst
  have driving := (drives_renewed acyclic goes keyed sameDefinition running drives).1
  have closes := conclude_untried_of_drives running (sameDefinition ▸ keyed) drives concludes
  exact (steady_of_untried opens.untried).renewed_append (driving.append_untried closes)
    fun _ member => absurd member (not_mem_succeeded opens.untried)

end Attempting

end Workflow
