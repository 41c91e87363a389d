import Workflow.Proofs.Completion
import Workflow.Proofs.Recurrence

/-!
# The limit on the steps of a run

A run processes at most as many steps as its settings allow.  It fails by this limit exactly when it
has processed that many and the last of them leads on.  Where the transitions make up no cycle it
stops by itself: from one fallback to the next it follows transitions, so that it processes no step
twice in between, and every fallback leads to a step that it has not processed before.  So it
processes at most as many steps as there are pairs of declared ones.
-/

namespace Workflow

open Proc Relation

/-! ## Routes without cycles -/

/-- How many declared steps are not among the given ones. -/
def Definition.ahead (definition : Definition) (seen : List String) : Nat :=
  definition.stepIds.countP (· ∉ seen)

section Routes

variable {runner : Runner} {inst : Instance} {definition : Definition} {passage : Passage}
variable {passages : List Passage} {starts : String → Prop} {segment seen : List String}
variable {key next : String}

theorem countP_unseen_cons_le (ids : List String) (key : String) (seen : List String) :
    ids.countP (· ∉ key :: seen) ≤ ids.countP (· ∉ seen) := by
  apply List.countP_mono_left
  intro id _ unseen
  simp only [List.mem_cons, not_or, decide_eq_true_eq] at unseen ⊢
  exact unseen.2

/-- To see a declared step leaves fewer steps ahead. -/
theorem Definition.ahead_cons_lt (declared : key ∈ definition.stepIds) (unseen : key ∉ seen) :
    definition.ahead (key :: seen) < definition.ahead seen := by
  obtain ⟨before, after, split⟩ := List.append_of_mem declared
  have earlier := countP_unseen_cons_le before key seen
  have later := countP_unseen_cons_le after key seen
  have counted : [key].countP (· ∉ seen) = 1 := by simp [unseen]
  have uncounted : [key].countP (· ∉ key :: seen) = 0 := by simp
  rw [ahead, ahead, split, List.append_cons, List.countP_append, List.countP_append,
    List.countP_append, List.countP_append, counted, uncounted]
  omega

/-- A step leads along a transition, or to a step that was not passed. -/
theorem Instance.Leads.connects_or_unpassed (leads : inst.Leads key (some next)) :
    inst.definition.Connects key next ∨ .text next ∉ inst.passed := by
  cases leads with
  | fires split _ _ =>
      refine .inl (connects_of_mem_outgoing ?_)
      rw [split]
      simp
  | falls _ _ _ _ unpassed =>
      refine .inr fun passed => unpassed ?_
      exact List.mem_append.mp passed

/-- Where passages lead to after the first of them, the rest of them come to. -/
theorem ComesTo.uncons (linked : (passage :: passages).IsChain Passage.Links)
    (comes : ComesTo starts (passage :: passages) next) :
    ∃ middle, passage.after.Leads passage.step.id (some middle) ∧
      (∀ first ∈ passages.head?, first.step.id = middle ∧
        passage.after.SameProgress first.before) ∧
      ComesTo (· = middle) passages next := by
  cases passages with
  | nil => exact ⟨next, comes, by simp, rfl⟩
  | cons second rest =>
      have links := (List.isChain_cons_cons.mp linked).1
      refine ⟨second.step.id, links.leads, ?_, ?_⟩
      · simp [links.same]
      · simpa [ComesTo, List.getLast?_cons] using comes

/-- Steps of a walk without cycles are at most as many as are declared. -/
theorem length_le_of_isChain (acyclic : Acyclic definition.Connects)
    (chain : segment.IsChain definition.Connects)
    (declared : ∀ id ∈ segment, id ∈ definition.stepIds) :
    segment.length ≤ definition.steps.length := by
  have within := (acyclic.nodup_of_isChain chain).subperm declared
  simpa [Definition.stepIds] using within.length_le

/-- A walk of steps goes on through passages to a next step.  Each time a passage falls back, the
walk begins again, with fewer steps ahead. -/
theorem length_le_of_walk (wellFormed : definition.WellFormed)
    (acyclic : Acyclic definition.Connects) (route : runner.Route definition passages)
    (heads : ∀ first ∈ passages.head?, first.step.id = key ∧ inst.SameProgress first.before)
    (comes : ComesTo (· = key) passages next)
    (walk : (segment ++ [key]).IsChain definition.Connects)
    (declared : ∀ id ∈ segment ++ [key], id ∈ definition.stepIds)
    (passed : ∀ id ∈ seen, .text id ∈ inst.passed) :
    segment.length + passages.length + 1 ≤
      definition.steps.length + definition.steps.length * definition.ahead (key :: seen) := by
  induction passages generalizing inst key segment seen with
  | nil =>
      have short := length_le_of_isChain acyclic walk declared
      rw [List.length_append, List.length_singleton] at short
      simpa using short.trans (Nat.le_add_right _ _)
  | cons passage rest ih =>
      obtain ⟨rfl, same⟩ := heads passage rfl
      obtain ⟨sound, others⟩ := List.forall_mem_cons.mp route.sound
      obtain ⟨middle, leads, onward, comes⟩ := comes.uncons route.linked
      have later : runner.Route definition rest := ⟨others, (List.isChain_cons.mp route.linked).2⟩
      have sameDefinition := sound.definition_eq.2
      have middleDeclared : middle ∈ definition.stepIds := by
        have found := leads.declared (sameDefinition ▸ wellFormed)
        rwa [sameDefinition] at found
      have passes : ∀ id ∈ passage.step.id :: seen, .text id ∈ passage.after.passed := by
        intro id member
        rw [sound.passed_perm.mem_iff, same.passed_eq, List.mem_append, List.mem_singleton]
        cases member with
        | head => exact .inr rfl
        | tail _ member => exact .inl (passed id member)
      rcases leads.connects_or_unpassed with connects | unpassed
      · rw [sameDefinition] at connects
        have further := ih later onward comes
          (List.isChain_append.mpr ⟨walk, .singleton middle, by simpa using connects⟩)
          (List.forall_mem_append.mpr ⟨declared, List.forall_mem_singleton.mpr middleDeclared⟩)
          passes
        have fewer := Nat.mul_le_mul_left definition.steps.length
          (countP_unseen_cons_le definition.stepIds middle (passage.step.id :: seen))
        simp only [List.length_append, List.length_cons, Definition.ahead] at further ⊢
        omega
      · -- the step that the passage falls back to has not been seen, so the walk begins anew
        have short := length_le_of_isChain acyclic walk declared
        have anew : ([] ++ [middle]).IsChain definition.Connects := .singleton middle
        have further := ih later onward comes anew (List.forall_mem_singleton.mpr middleDeclared)
          passes
        have fewer := Nat.mul_le_mul_left definition.steps.length
          (Definition.ahead_cons_lt middleDeclared fun seen => unpassed (passes middle seen))
        simp only [List.length_append, List.length_cons, List.length_nil, Nat.mul_succ]
          at further fewer short ⊢
        omega

/-- Passages that come to a step are fewer than the pairs of declared steps. -/
theorem length_lt_of_comesTo (read : definition.IsRead) (acyclic : Acyclic definition.Connects)
    (route : runner.Route definition passages)
    (heads : ∀ first ∈ passages.head?, inst.SameProgress first.before)
    (comes : ComesTo starts passages next) :
    passages.length < definition.steps.length * definition.steps.length := by
  have declares : 0 < definition.steps.length :=
    List.length_pos_of_ne_nil read.wellFormed.steps_ne_nil
  cases passages with
  | nil => exact Nat.mul_pos declares declares
  | cons passage rest =>
      have declared := Definition.mem_stepIds_of_step?
        (route.sound passage List.mem_cons_self).declared
      have alone : ([] ++ [passage.step.id]).IsChain definition.Connects := .singleton _
      have bound := length_le_of_walk read.wellFormed acyclic route (by simpa using heads) comes
        alone (List.forall_mem_singleton.mpr declared) (List.forall_mem_nil _)
      have all : definition.ahead [] = definition.steps.length := by
        simp [Definition.ahead, Definition.stepIds]
      have fewer := Nat.mul_le_mul_left definition.steps.length
        (Definition.ahead_cons_lt declared List.not_mem_nil)
      rw [all, Nat.mul_succ] at fewer
      simp only [List.length_nil] at bound
      omega

/-- A route without cycles has at most as many passages as there are pairs of declared steps. -/
theorem length_le_of_route (read : definition.IsRead) (acyclic : Acyclic definition.Connects)
    (route : runner.Route definition passages)
    (heads : ∀ first ∈ passages.head?, inst.SameProgress first.before) :
    passages.length ≤ definition.steps.length * definition.steps.length := by
  rcases List.eq_nil_or_concat passages with rfl | ⟨earlier, last, rfl⟩
  · exact Nat.zero_le _
  · rw [List.concat_eq_append] at route heads ⊢
    obtain ⟨linked, _, joins⟩ := List.isChain_append.mp route.linked
    have before : runner.Route definition earlier :=
      ⟨fun passage member => route.sound passage (List.mem_append_left _ member), linked⟩
    have comes : ComesTo (· = last.step.id) earlier last.step.id := by
      unfold ComesTo
      cases final : earlier.getLast? with
      | none => rfl
      | some passage => exact (joins passage final last rfl).leads
    have begins : ∀ first ∈ earlier.head?, inst.SameProgress first.before := by
      intro first member
      apply heads
      rw [List.head?_append, Option.mem_def.mp member]
      rfl
    have fewer := length_lt_of_comesTo read acyclic before begins comes
    rw [List.length_append, List.length_singleton]
    exact fewer

end Routes

/-! ## Runs that use up their steps -/

/-- A run failed because it was not to process more steps: it is stored with the message that says
so, though it recorded no step as failed. -/
def Runner.Overran (runner : Runner) (inst last : Instance) : Prop :=
  last.state = .failed ∧ last.failures = inst.failures ∧
    ∃ key, last.errorMessage = .text (StepError.stepLimit key runner.settings.maxSteps).message

section Exceeding

variable {σ : Type} {records : Records σ} {actors : Actors σ} {runner : Runner}
variable {inst last : Instance} {state between final : σ} {exchanges told : List Request.Answered}
variable {limit : Nat} {key : String} {passages : List Passage} {ending : StepsEnd}

theorem isUse_save (saved : Instance) (kept : Except Failure Unit) :
    (⟨.save saved, kept⟩ : Request.Answered).isUse = false :=
  rfl

/-- A run that halts with a failed instance and no new failed step was not to process more
steps. -/
theorem halts_exceeded {remaining : Nat} (running : inst.state = .running)
    (halts : runner.Halts (records.world actors) inst key state remaining exchanges
      (.finished last) final)
    (same : last.failures = inst.failures) :
    remaining = 0 ∧ exchanges.filter (·.isUse) = [] ∧
      last = runner.failed inst (StepError.stepLimit key runner.settings.maxSteps).message := by
  generalize whole : StepsEnd.finished last = ending at halts
  cases halts with
  | interrupted | unlooked | unknown | unentered | stopped | raised => cases whole
  | exceeded looks _ exceeds =>
      rcases exceedLimit_ends running exceeds with
        ⟨logged, kept, _, _, told, logs, tells, rfl, saved, rfl⟩
      rcases saved with ⟨rfl, _⟩
      cases whole
      refine ⟨rfl, ?_, rfl⟩
      simp [(idle_checkInterrupted looks).filter_isUse, logs.filter_isUse, tells.filter_isUse,
        isUse_save]
  | failed enters executes fails =>
      -- the failed step would be among the failures
      have stays : (runner.moved inst key).state = .running := running
      rcases failStep_ends stays fails with ⟨logged, undone, logs, failing⟩
      rcases failing with ⟨failure, rfl, compensates, rfl⟩ |
        ⟨kept, _, _, told, tells, rfl, compensates, saved, _, rfl⟩
      · cases whole
      · rcases saved with ⟨rfl, _⟩
        cases whole
        have longer := congrArg List.length same
        simp [Runner.failed, Runner.marked, Runner.moved] at longer

theorem finishes_completed (running : inst.state = .running)
    (finishes : runner.Finishes (records.world actors) inst key state exchanges (.finished last)
      final) : last.state = .completed := by
  generalize whole : StepsEnd.finished last = ending at finishes
  cases finishes with
  | unchosen | unleft => cases whole
  | completes _ completes =>
      rcases completeRun_ends running completes with ⟨kept, _, told, rfl, saved, tells, rfl⟩
      rcases saved with ⟨rfl, _⟩
      cases whole
      rfl

/-- A run returns an instance whose steps came to an end, or one that was found cancelled or
paused. -/
theorem conclude_eq_ok {id : String} {arrived : Prop} {stood : Instance}
    (accords : ending.Accords stood arrived)
    (ended : Ends (records.world actors) (runner.conclude id ending) state exchanges (.ok last)
      final) :
    exchanges.filter (·.isUse) = [] ∧
      (ending = .finished last ∨ last.state.interrupts = true) := by
  cases ending with
  | finished other =>
      rcases ends_done.mp ended with ⟨rfl, same, _⟩
      cases same
      exact ⟨rfl, .inl rfl⟩
  | stopped stored =>
      rcases conclude_stopped_ends ended with ⟨idle, same⟩
      cases same
      exact ⟨idle.filter_isUse, .inr accords.1⟩
  | raised other failure =>
      rcases conclude_raised_ends accords.2.1 ended with
        ⟨logged, kept, _, _, told, logs, tells, _, _, _, returns⟩
      cases kept <;> cases returns

theorem Runner.LeavesOff.length_le {world : World σ} {closing : List Request.Answered}
    (leaves : runner.LeavesOff world limit inst key state passages closing ending final) :
    passages.length ≤ limit := by
  cases leaves with
  | halts _ _ _ _ fewer _ => exact fewer ▸ Nat.le_add_right _ _
  | finishes _ _ fewer _ => exact fewer

/-- A run that returns a failed instance and recorded no step as failed has processed as many steps
as it may, and halted at the next one. -/
theorem leavesOff_overran {id : String} {closing : List Request.Answered}
    (running : inst.state = .running)
    (leaves : runner.LeavesOff (records.world actors) limit inst key state passages closing ending
      between)
    (concludes : Ends (records.world actors) (runner.conclude id ending) between told (.ok last)
      final)
    (failed : last.state = .failed) (same : last.failures = inst.failures) :
    ∃ next, passages.length = limit ∧ ComesTo (· = key) passages next ∧
      (inst.reached passages).SameProgress last ∧
      last.errorMessage = .text (StepError.stepLimit next runner.settings.maxSteps).message ∧
      (passages ≠ [] → last.currentStep = .text next) ∧ (closing ++ told).filter (·.isUse) = [] := by
  rcases conclude_eq_ok (leavesOff_accords running leaves).2.1 concludes with
    ⟨unused, rfl | interrupts⟩
  · cases leaves with
    | finishes final continues _ finishes =>
        have completed := finishes_completed (continues.state_eq.trans running) finishes
        rw [failed] at completed
        cases completed
    | @halts stood next _ _ _ _ _ comes continues reaches stands fewer halts =>
        rw [← continues.failures_eq] at same
        rcases halts_exceeded (continues.state_eq.trans running) halts same with
          ⟨rfl, unasked, rfl⟩
        refine ⟨next, fewer, comes, reaches.trans (same_failed runner stood _), rfl, ?_, ?_⟩
        · intro nonempty
          rcases stands with ⟨empty, _⟩ | ⟨current, _⟩
          · exact absurd empty nonempty
          · exact current
        · rw [List.filter_append, unasked, unused, List.append_nil]
  · rw [failed] at interrupts
    cases interrupts

/-- A run that has processed as many steps as it may, and comes to another one, fails by the
limit. -/
theorem leavesOff_exceeds {id : String} {closing : List Request.Answered}
    {outcome : Except Failure Instance} {passage : Passage} {next : String}
    (running : inst.state = .running) (declared : next ∈ inst.definition.stepIds)
    (leaves : runner.LeavesOff (records.world actors) limit inst key state passages closing ending
      between)
    (concludes : Ends (records.world actors) (runner.conclude id ending) between told outcome final)
    (full : passages.length = limit) (final : passages.getLast? = some passage)
    (leads : passage.after.Leads passage.step.id (some next)) :
    ∃ last, outcome = .ok last ∧ last.state = .failed ∧ last.failures = inst.failures ∧
      last.errorMessage = .text (StepError.stepLimit next runner.settings.maxSteps).message := by
  cases leaves with
  | finishes last _ _ finishes =>
      cases last.symm.trans final
      rcases finishes_stops finishes with nowhere | ⟨failure, fails⟩
      · cases leads.unique nowhere
      · rw [chosenStep_eq_ok.mpr leads] at fails
        cases fails
  | @halts stood other remaining before _ _ _ comes continues _ stands fewer halts =>
      obtain rfl : remaining = 0 := by omega
      rw [ComesTo, final] at comes
      cases leads.unique comes
      have goesOn : stood.state = .running := continues.state_eq.trans running
      -- the instance was saved as running right before the run looks whether it may go on
      have quiet : records.Quiet stood.id before := by
        rcases stands with ⟨rfl, _⟩ | ⟨_, earlier, _, rfl⟩
        · cases final
        · exact quiet_save (by rw [goesOn]; rfl)
      cases halts with
      | interrupted looks => cases checkInterrupted_quiet quiet looks
      | unlooked looks => cases checkInterrupted_quiet quiet looks
      | unknown _ missing =>
          rw [← continues.definition_eq] at declared
          exact absurd missing (Definition.exists_step? declared)
      | exceeded _ _ exceeds =>
          rcases exceedLimit_ends goesOn exceeds with
            ⟨_, kept, _, _, _, _, _, _, saved, rfl⟩
          rcases saved with ⟨rfl, _⟩
          rcases ends_done.mp concludes with ⟨_, rfl, _⟩
          exact ⟨_, rfl, rfl, continues.failures_eq, rfl⟩

end Exceeding

/-! ## Runs -/

/-- The last of some passages leads to the step under a key. -/
def LeadsOn (passages : List Passage) (next : String) : Prop :=
  ∃ last ∈ passages.getLast?, last.after.Leads last.step.id (some next)

section Runs

variable {σ : Type} {records : Records σ} {actors : Actors σ} {runner : Runner} {inst : Instance}
variable {state final : σ} {exchanges : List Request.Answered}
variable {outcome : Except Failure Instance}

theorem ComesTo.leadsOn {starts : String → Prop} {passages : List Passage} {next : String}
    (comes : ComesTo starts passages next) (nonempty : passages ≠ []) : LeadsOn passages next := by
  rw [ComesTo, List.getLast?_eq_some_getLast nonempty] at comes
  exact ⟨_, List.getLast?_eq_some_getLast nonempty, comes⟩

theorem Opens.filter_isUse {opening : List Request.Answered} (opens : Opens runner inst opening) :
    opening.filter (·.isUse) = [] := by
  rcases opens with ⟨_, rfl⟩ | rfl
  · rfl
  · rfl

/-- A run processes no more steps than it may.  It fails by the limit if and only if it has
processed as many and comes to another one, and this is what it leaves then. -/
theorem run_within (read : inst.definition.IsRead)
    (ended : Ends (records.world actors) (runner.run inst) state exchanges outcome final) :
    ∃ (opening : List Request.Answered) (passages : List Passage)
      (closing : List Request.Answered),
      exchanges = opening ++ (passages.flatMap Passage.exchanges ++ closing) ∧
      runner.Route inst.definition passages ∧
      (∀ first ∈ passages.head?, inst.StartsAt first.step.id ∧ inst.SameProgress first.before) ∧
      passages.length ≤ runner.settings.maxSteps.toNat ∧
      SavesOnly (inst.PassesAlong passages) exchanges ∧
      (1 ≤ runner.settings.maxSteps → ∀ last, outcome = .ok last → runner.Overran inst last →
        passages.length = runner.settings.maxSteps.toNat ∧
        (inst.reached passages).SameProgress last ∧ (opening ++ closing).filter (·.isUse) = [] ∧
        ∃ next, LeadsOn passages next ∧ last.currentStep = .text next ∧ last.errorMessage =
          .text (StepError.stepLimit next runner.settings.maxSteps).message) ∧
      (passages.length = runner.settings.maxSteps.toNat → (∃ next, LeadsOn passages next) →
        ∃ last, outcome = .ok last ∧ runner.Overran inst last) := by
  cases active : inst.state.isActive with
  | false =>
      rcases run_refused active ended with ⟨rfl, failure, rfl⟩
      refine ⟨[], [], [], rfl, ⟨by simp, .nil⟩, by simp, Nat.zero_le _, savesOnly_nil, ?_, ?_⟩
      · rintro _ _ ⟨⟩
      · rintro _ ⟨_, _, ⟨⟩, _⟩
  | true =>
      rcases run_leavesOff active read ended with
        ⟨opening, passages, closing, told, key, ending, _, _, rfl, opens, starts, route, heads,
          leaves, concludes⟩
      have running := runner.begun_state inst
      have same : ∀ first ∈ passages.head?, inst.SameProgress first.before :=
        fun first member => (heads first member).2
      refine ⟨opening, passages, closing ++ told, rfl, route, ?_, ?_,
        leavesOff_passesAlong opens route same leaves concludes, ?_, ?_⟩
      · intro first member
        rcases heads first member with ⟨rfl, begun⟩
        exact ⟨starts, begun⟩
      · exact leaves.length_le
      · rintro positive last rfl ⟨failed, sameFailures, _⟩
        rw [← runner.begun_failures inst] at sameFailures
        rcases leavesOff_overran running leaves concludes failed sameFailures with
          ⟨next, full, comes, reaches, message, current, unused⟩
        have nonempty : passages ≠ [] := by
          rintro rfl
          rw [List.length_nil] at full
          omega
        refine ⟨full, (same_begun runner inst).reached.trans reaches, ?_, next,
          comes.leadsOn nonempty, current nonempty, message⟩
        rw [List.filter_append, opens.filter_isUse, unused, List.append_nil]
      · rintro full ⟨next, last, final, leads⟩
        have sameDefinition := (route.sound last (List.mem_of_getLast? final)).definition_eq.2
        have declared : next ∈ (runner.begun inst).definition.stepIds := by
          have found := leads.declared (sameDefinition ▸ read.wellFormed)
          rwa [sameDefinition, ← runner.begun_definition inst] at found
        rcases leavesOff_exceeds running declared leaves concludes full final leads with
          ⟨last, returns, failed, sameFailures, message⟩
        rw [runner.begun_failures] at sameFailures
        exact ⟨last, returns, failed, sameFailures, next, message⟩

/-! ## Runs without cycles -/

/-- Where the transitions make up no cycle, a run of an instance, whatever it has passed before,
whatever its data are and whatever its actions do, processes at most as many steps as there are
pairs of declared ones.  So it does not fail by a limit that allows as many. -/
theorem run_stops_by_itself (read : inst.definition.IsRead)
    (acyclic : Acyclic inst.definition.Connects)
    (ended : Ends (records.world actors) (runner.run inst) state exchanges outcome final) :
    ∃ (opening : List Request.Answered) (passages : List Passage)
      (closing : List Request.Answered),
      exchanges = opening ++ (passages.flatMap Passage.exchanges ++ closing) ∧
      runner.Route inst.definition passages ∧
      (∀ first ∈ passages.head?, inst.StartsAt first.step.id ∧ inst.SameProgress first.before) ∧
      SavesOnly (inst.PassesAlong passages) exchanges ∧
      passages.length ≤ inst.definition.steps.length * inst.definition.steps.length ∧
      (((inst.definition.steps.length * inst.definition.steps.length : Nat) : Int) ≤
          runner.settings.maxSteps →
        ∀ last, outcome = .ok last → ¬ runner.Overran inst last) := by
  rcases run_within read ended with
    ⟨opening, passages, closing, whole, route, heads, _, passes, overran, _⟩
  have same : ∀ first ∈ passages.head?, inst.SameProgress first.before :=
    fun first member => (heads first member).2
  refine ⟨opening, passages, closing, whole, route, heads, passes,
    length_le_of_route read acyclic route same, fun enough last returns exceeds => ?_⟩
  have declares : 0 < inst.definition.steps.length :=
    List.length_pos_of_ne_nil read.wellFormed.steps_ne_nil
  have square := Nat.mul_pos declares declares
  rcases overran (by omega) last returns exceeds with ⟨full, _, _, next, ⟨final, ends, leads⟩, _⟩
  have comes : ComesTo inst.StartsAt passages next := by
    rw [ComesTo, Option.mem_def.mp ends]
    exact leads
  have fewer := length_lt_of_comesTo read acyclic route same comes
  omega

end Runs

/-- An order that is not approved falls back once, and does not come near its limit. -/
theorem run_stops_by_itself_unapproved :
    let course := (Runner.plain.run .unapproved).course
      (MemoryStore.records.serve Repertoire.succeeding.deeds) .empty
    Definition.amending.IsRead ∧ Acyclic Definition.amending.Connects ∧
      Ends (MemoryStore.records.world Repertoire.succeeding.deeds.actors)
        (Runner.plain.run .unapproved) .empty course.1 course.2.1 course.2.2 ∧
      (∃ passages, Runner.plain.Route .amending passages ∧ passages.length ≤ 4 * 4) ∧
      4 * 4 ≤ Runner.plain.settings.maxSteps ∧
      ∀ last, course.2.1 = .ok last → ¬ Runner.plain.Overran .unapproved last := by
  intro course
  have ended := ends_course (MemoryStore.records.world_serve Repertoire.succeeding.deeds)
    (Runner.plain.run .unapproved) .empty
  have enough : 4 * 4 ≤ Runner.plain.settings.maxSteps := by decide
  rcases run_stops_by_itself Definition.isRead_amending Definition.acyclic_amending ended with
    ⟨_, passages, _, _, route, _, _, fewer, within⟩
  exact ⟨Definition.isRead_amending, Definition.acyclic_amending, ended, ⟨passages, route, fewer⟩,
    enough, within enough⟩

/-! ## Runs that fail by the limit -/

section Runs

variable {σ : Type} {records : Records σ} {actors : Actors σ} {runner : Runner} {inst : Instance}
variable {state final : σ} {exchanges : List Request.Answered}
variable {outcome : Except Failure Instance}

/-- A run returns what is stored. -/
theorem run_returns_stored {last : Instance} (read : inst.definition.IsRead)
    (ended : Ends (records.world actors) (runner.run inst) state exchanges (.ok last) final) :
    records.record? final inst.id = some last := by
  cases active : inst.state.isActive with
  | false =>
      rcases run_refused active ended with ⟨_, _, refused⟩
      cases refused
  | true =>
      have start : (Phase.idle inst).Accounts records inst.id state :=
        ⟨rfl, active, read.wellFormed.steps_ne_nil⟩
      rcases accounts_invariant.at_end (run_governed inst) start ended with ⟨_, accounts, rfl⟩
      exact accounts.1

/-- A run processes at most as many steps as it may, and what it saves has passed at most as many
more.  It fails by the limit, and with no new failed step, exactly when it has processed as many
steps as it may and the last of them leads to another one.  Then no action is used but for the
steps that it processed, and it returns the stored instance, which has the progress that these steps
made and stands at the step that they lead to. -/
theorem run_fails_by_limit_iff (read : inst.definition.IsRead)
    (positive : 1 ≤ runner.settings.maxSteps)
    (ended : Ends (records.world actors) (runner.run inst) state exchanges outcome final) :
    ∃ (opening : List Request.Answered) (passages : List Passage)
      (closing : List Request.Answered),
      exchanges = opening ++ (passages.flatMap Passage.exchanges ++ closing) ∧
      runner.Route inst.definition passages ∧
      (∀ first ∈ passages.head?, inst.StartsAt first.step.id ∧ inst.SameProgress first.before) ∧
      passages.length ≤ runner.settings.maxSteps ∧
      SavesOnly (fun saved =>
        saved.passed.length ≤ inst.passed.length + runner.settings.maxSteps) exchanges ∧
      ((∃ last, outcome = .ok last ∧ runner.Overran inst last) ↔
        passages.length = runner.settings.maxSteps ∧ ∃ next, LeadsOn passages next) ∧
      ∀ last, outcome = .ok last → runner.Overran inst last →
        (opening ++ closing).filter (·.isUse) = [] ∧
        records.record? final inst.id = some last ∧
        (inst.reached passages).SameProgress last ∧
        ∃ next, LeadsOn passages next ∧ last.currentStep = .text next ∧ last.errorMessage =
          .text (StepError.stepLimit next runner.settings.maxSteps).message := by
  rcases run_within read ended with
    ⟨opening, passages, closing, whole, route, heads, fewer, passes, overran, exceeds⟩
  refine ⟨opening, passages, closing, whole, route, heads, by omega, ?_, ⟨?_, ?_⟩, ?_⟩
  · refine passes.mono fun saved along => ?_
    rcases along with ⟨done, first, passed⟩
    have shorter := first.length_le
    rw [passed.length_eq, List.length_append, List.length_map]
    omega
  · rintro ⟨last, returns, exceeds⟩
    rcases overran positive last returns exceeds with ⟨full, _, _, next, leads, _⟩
    exact ⟨by omega, next, leads⟩
  · rintro ⟨full, leads⟩
    exact exceeds (by omega) leads
  · intro last returns exceeds
    rcases overran positive last returns exceeds with ⟨_, reaches, unused, leads⟩
    rw [returns] at ended
    exact ⟨unused, run_returns_stored read ended, reaches, leads⟩

end Runs

/-- The document of a definition whose one step leads back to itself. -/
def Definition.pollingDocument : Value :=
  .dict (Dict.ofFields
    [("name", .text "polling"),
      ("steps", .list [.dict (Dict.ofFields [("id", .text "poll"), ("action", .text "act")])]),
      ("transitions", .list [.dict (Dict.ofFields [("from", .text "poll"), ("to", .text "poll")])])])

/-- A definition whose one step leads back to itself. -/
def Definition.polling : Definition :=
  ⟨"polling", "1.0", [("poll", { Step.named "poll" with action := some "act" })],
    [⟨"poll", "poll", none, []⟩], []⟩

theorem Definition.isRead_polling : polling.IsRead := by
  refine ⟨.document pollingDocument, rfl, ?_⟩
  intro known same
  cases same

/-- A runner that processes at most three steps. -/
def Runner.brief : Runner :=
  { Runner.plain with settings := { Runner.plain.settings with maxSteps := 3 } }

theorem run_fails_by_limit_polling :
    let inst := Instance.fresh "w" .polling [] default
    let course := (Runner.brief.run inst).course
      (MemoryStore.records.serve Repertoire.succeeding.deeds) .empty
    inst.definition.IsRead ∧ 1 ≤ Runner.brief.settings.maxSteps ∧
      Ends (MemoryStore.records.world Repertoire.succeeding.deeds.actors) (Runner.brief.run inst)
        .empty course.1 course.2.1 course.2.2 ∧
      ∃ last passages next, course.2.1 = .ok last ∧ Runner.brief.Overran inst last ∧
        Runner.brief.Route .polling passages ∧ (passages.length : Int) = 3 ∧
        LeadsOn passages next ∧ last.currentStep = .text next := by
  intro inst course
  have ended := ends_course (MemoryStore.records.world_serve Repertoire.succeeding.deeds)
    (Runner.brief.run inst) .empty
  have fails : course.2.1.toOption.map (fun last => (last.state, last.failures,
      last.errorMessage)) = some (.failed, [],
        .text (StepError.stepLimit "poll" Runner.brief.settings.maxSteps).message) := by
    decide +kernel
  cases returns : course.2.1 with
  | error failure =>
      rw [returns] at fails
      cases fails
  | ok last =>
      rw [returns] at fails ended
      have same := Option.some.inj fails
      simp only [Prod.mk.injEq] at same
      rcases same with ⟨failed, failures, message⟩
      have exceeds : Runner.brief.Overran inst last := ⟨failed, failures, "poll", message⟩
      rcases run_fails_by_limit_iff Definition.isRead_polling (by decide) ended with
        ⟨_, passages, _, _, route, _, _, _, exactly, leaves⟩
      rcases leaves last rfl exceeds with ⟨_, _, _, next, leads, current, _⟩
      exact ⟨Definition.isRead_polling, by decide, ended, last, passages, next, rfl, exceeds, route,
        (exactly.mp ⟨last, rfl, exceeds⟩).1, leads, current⟩

/-- Actions that fail as if the run had used up its steps. -/
def Deeds.forging : Deeds MemoryStore where
  perform _ store := (.error (.workflow (.step (.stepLimit "only" 100))), store)

theorem Deeds.still_forging : Deeds.forging.actors.Still where
  make answered := congrArg Prod.snd answered
  permits answered := congrArg Prod.snd answered
  perform answered := congrArg Prod.snd answered
  sleep answered := answered.2

/-- The message of the limit alone does not tell that as many steps were processed, since the
failure of an action may have the same message. -/
theorem not_full_of_message :
    ¬ ∀ (actors : Actors MemoryStore) (exchanges : List Request.Answered) (last : Instance)
        (final : MemoryStore), actors.Still →
      Ends (MemoryStore.records.world actors) (Runner.plain.run (.fresh "w" .reversible [] default))
        .empty exchanges (.ok last) final →
      last.state = .failed →
      last.errorMessage =
        .text (StepError.stepLimit "only" Runner.plain.settings.maxSteps).message →
      last.passed.length = Runner.plain.settings.maxSteps := by
  intro told
  let course := (Runner.plain.run (.fresh "w" .reversible [] default)).course
    (MemoryStore.records.serve .forging) .empty
  have ended := ends_course (MemoryStore.records.world_serve .forging)
    (Runner.plain.run (.fresh "w" .reversible [] default)) .empty
  have fails : course.2.1.toOption.map (fun last => (last.state, last.errorMessage,
      last.passed.length)) = some (.failed,
        .text (StepError.stepLimit "only" Runner.plain.settings.maxSteps).message, 0) := by
    decide +kernel
  cases returns : course.2.1 with
  | error failure =>
      rw [returns] at fails
      cases fails
  | ok last =>
      have ended : Ends _ _ _ course.1 course.2.1 course.2.2 := ended
      rw [returns] at fails ended
      have same := Option.some.inj fails
      simp only [Prod.mk.injEq] at same
      rcases same with ⟨failed, message, unpassed⟩
      have full := told _ _ last _ Deeds.still_forging ended failed message
      rw [unpassed] at full
      cases full

end Workflow
