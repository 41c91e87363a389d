import Mathlib.Data.List.Chain
import Workflow.Proofs.Compensation

/-!
# The route of a run

The steps that a run processes make up a route.  It begins at the current step of the instance or at
the entry of the definition, and goes on from each step to where the step leads.  Each step on it is
completed or skipped, by what its preconditions say of the data that the step before it left.  A run
completes when its route comes to a step that leads nowhere.
-/

namespace Workflow

open Proc

/-! ## Passages -/

/-- An instance has the data of another one, and the same steps completed and skipped. -/
structure Instance.SameProgress (inst other : Instance) : Prop where
  data_eq : other.data = inst.data
  completed_eq : other.completed = inst.completed
  skipped_eq : other.skipped = inst.skipped

namespace Instance.SameProgress

variable {inst other last : Instance}

@[refl] theorem refl (inst : Instance) : inst.SameProgress inst :=
  ⟨rfl, rfl, rfl⟩

theorem trans (first : inst.SameProgress other) (second : other.SameProgress last) :
    inst.SameProgress last :=
  ⟨second.data_eq.trans first.data_eq, second.completed_eq.trans first.completed_eq,
    second.skipped_eq.trans first.skipped_eq⟩

end Instance.SameProgress

/-- A step that a run processes: what is asked when the run comes to it, while it executes it and
when it leaves it, and the instance before and after. -/
structure Passage where
  entry : List Request.Answered
  before : Instance
  step : Step
  course : List Request.Answered
  after : Instance
  exit : List Request.Answered

namespace Passage

/-- All that is asked in a passage. -/
def exchanges (passage : Passage) : List Request.Answered :=
  passage.entry ++ (passage.course ++ passage.exit)

/-- The preconditions of the step held, and it is completed: with the data of the result of the one
attempt of its action that was a success, or with none if it has no action. -/
structure Completes (runner : Runner) (passage : Passage) : Prop where
  ready : ∀ condition ∈ passage.step.conditions,
    Condition.evaluate (.text condition) (.dict passage.before.data) = .ok true
  completed_eq : passage.after.completed = passage.before.completed ++ [.text passage.step.id]
  skipped_eq : passage.after.skipped = passage.before.skipped
  data_eq : passage.step.action = none ∧ passage.after.data = passage.before.data ∨
    ∃ action config number result, passage.step.action = some action ∧
      renderParameters passage.before passage.step = .ok config ∧
      passage.course.filterMap (·.success?) =
        [(⟨.attempt number, action, runner.context passage.before passage.step config⟩, result)] ∧
      passage.after.data = passage.before.data.overlay result.data

/-- A precondition of the step did not hold, and the step is skipped. -/
structure Skips (runner : Runner) (passage : Passage) : Prop where
  policy : runner.settings.policy = .skip
  declined : ∃ condition ∈ passage.step.conditions,
    Condition.evaluate (.text condition) (.dict passage.before.data) = .ok false
  unused : passage.course.filter (·.isUse) = []
  completed_eq : passage.after.completed = passage.before.completed
  skipped_eq : passage.after.skipped = passage.before.skipped ++ [.text passage.step.id]
  data_eq : passage.after.data = passage.before.data

/-- A run saves its instance at a step of the definition, processes the step, and saves nothing else
than what that gave. -/
structure Sound (runner : Runner) (definition : Definition) (passage : Passage) : Prop where
  declared : definition.step? passage.step.id = some passage.step
  current : passage.before.currentStep = .text passage.step.id
  definition_eq : passage.before.definition = definition ∧ passage.after.definition = definition
  entered : passage.entry.filterMap (·.saved?) = [passage.before]
  processed : passage.Completes runner ∨ passage.Skips runner
  unsaved : passage.course.filterMap (·.saved?) = []
  left : SavesOnly passage.after.SameProgress passage.exit

/-- A passage goes on where another one leads. -/
structure Links (passage next : Passage) : Prop where
  leads : passage.after.Leads passage.step.id (some next.step.id)
  same : passage.after.SameProgress next.before

end Passage

/-- The passages of a run of instances of a definition, one after the other. -/
structure Runner.Route (runner : Runner) (definition : Definition) (passages : List Passage) :
    Prop where
  sound : ∀ passage ∈ passages, passage.Sound runner definition
  linked : passages.IsChain Passage.Links

/-- The instance that passages leave. -/
def Instance.reached (inst : Instance) (passages : List Passage) : Instance :=
  (passages.getLast?.map (·.after)).getD inst

/-- The last of some passages leads nowhere. -/
def Arrives (passages : List Passage) : Prop :=
  ∃ last ∈ passages.getLast?, last.after.Leads last.step.id none

/-- The key of the step that a run begins with: the current step, or else the entry. -/
inductive Instance.StartsAt (inst : Instance) : String → Prop where
  | current {key : String} : inst.currentStep = .text key → key ≠ "" → StartsAt inst key
  | entry {step : Step} : (∀ key, inst.currentStep = .text key → key = "") →
      inst.definition.entry? = some step → StartsAt inst step.id

/-- The key of the step that comes after passages that start at one of the given keys. -/
def ComesTo (starts : String → Prop) (passages : List Passage) (key : String) : Prop :=
  match passages.getLast? with
  | some last => last.after.Leads last.step.id (some key)
  | none => starts key

/-- Why passages come to an end: they arrived, there was no telling the next step, or the run halted
at the next step instead of processing it. -/
inductive Runner.Stops {σ : Type} (runner : Runner) (world : World σ) (limit : Nat)
    (starts : String → Prop) (inst : Instance) (passages : List Passage)
    (closing : List Request.Answered) : Prop where
  | arrived : Arrives passages → Stops runner world limit starts inst passages closing
  | unchosen {last : Passage} {failure : Failure} : last ∈ passages.getLast? →
      chosenStep last.after last.step.id = .error failure →
      Stops runner world limit starts inst passages closing
  | halted {stood : Instance} {key : String} {remaining : Nat} {before after : σ}
      {exchanges : List Request.Answered} {ending : StepsEnd} :
      ComesTo starts passages key → (inst.reached passages).SameProgress stood →
      passages.length + remaining = limit →
      runner.Halts world stood key before remaining exchanges ending after →
      exchanges <+: closing → Stops runner world limit starts inst passages closing

/-- How a run of so many steps from the one under a key ends after some passages: it halts at the
step that they come to, where it stands since it was last saved or since it began, or it ends after
the last of them. -/
inductive Runner.LeavesOff {σ : Type} (runner : Runner) (world : World σ) (limit : Nat)
    (inst : Instance) (key : String) (state : σ) (passages : List Passage) :
    List Request.Answered → StepsEnd → σ → Prop where
  | halts {stood : Instance} {next : String} {remaining : Nat} {before final : σ}
      {closing : List Request.Answered} {ending : StepsEnd} :
      ComesTo (· = key) passages next → inst.Continues stood →
      (inst.reached passages).SameProgress stood →
      (passages = [] ∧ stood = inst ∧ before = state ∨
        stood.currentStep = .text next ∧ ∃ earlier, world (.save stood) earlier (.ok ()) before) →
      passages.length + remaining = limit →
      runner.Halts world stood next before remaining closing ending final →
      LeavesOff runner world limit inst key state passages closing ending final
  | finishes {last : Passage} {before final : σ} {closing : List Request.Answered}
      {ending : StepsEnd} :
      last ∈ passages.getLast? → inst.Continues last.after → passages.length ≤ limit →
      runner.Finishes world last.after last.step.id before closing ending final →
      LeavesOff runner world limit inst key state passages closing ending final

section Routes

variable {runner : Runner} {inst other : Instance} {passage : Passage} {passages : List Passage}

/-- A step leads to one place. -/
theorem Instance.Leads.unique {key : String} {next another : Option String}
    (leads : inst.Leads key next) (again : inst.Leads key another) : next = another := by
  have same := (chosenStep_eq_ok.mpr leads).symm.trans (chosenStep_eq_ok.mpr again)
  cases same
  rfl

theorem Instance.reached_cons :
    inst.reached (passage :: passages) = passage.after.reached passages := by
  rw [reached, reached, List.getLast?_cons]
  cases passages.getLast? <;> rfl

theorem Instance.SameProgress.reached (same : inst.SameProgress other) :
    (inst.reached passages).SameProgress (other.reached passages) := by
  unfold Instance.reached
  cases passages.getLast? with
  | none => exact same
  | some last => exact .refl last.after

/-- Passages that come to a step have not arrived. -/
theorem ComesTo.not_arrives {starts : String → Prop} {key : String}
    (comes : ComesTo starts passages key) : ¬ Arrives passages := by
  rintro ⟨last, final, nowhere⟩
  rw [ComesTo, Option.mem_def.mp final] at comes
  cases comes.unique nowhere

theorem arrives_of_getLast? (last : passages.getLast? = some passage) :
    Arrives passages ↔ passage.after.Leads passage.step.id none := by
  simp [Arrives, last]

theorem Instance.reached_of_getLast? (last : passages.getLast? = some passage) :
    inst.reached passages = passage.after := by
  rw [reached, last]
  rfl

theorem ComesTo.mono {starts begins : String → Prop} {key : String}
    (begun : ∀ key, starts key → begins key) (comes : ComesTo starts passages key) :
    ComesTo begins passages key := by
  rw [ComesTo] at comes ⊢
  cases found : passages.getLast? with
  | some last =>
      rw [found] at comes
      exact comes
  | none =>
      rw [found] at comes
      exact begun key comes

theorem ComesTo.cons {starts : String → Prop} {next key : String}
    (leads : passage.after.Leads passage.step.id (some next))
    (comes : ComesTo (· = next) passages key) : ComesTo starts (passage :: passages) key := by
  rw [ComesTo] at comes ⊢
  rw [List.getLast?_cons]
  cases found : passages.getLast? with
  | some last =>
      rw [found] at comes
      exact comes
  | none =>
      rw [found] at comes
      cases comes
      exact leads

namespace Runner.Stops

variable {σ : Type} {world : World σ} {limit : Nat} {starts : String → Prop}
variable {closing : List Request.Answered}

/-- Why passages come to an end does not depend on what is asked afterwards. -/
theorem append {later : List Request.Answered} {begins : String → Prop}
    (begun : ∀ key, starts key → begins key) (same : inst.SameProgress other)
    (stops : runner.Stops world limit starts other passages closing) :
    runner.Stops world limit begins inst passages (closing ++ later) := by
  cases stops with
  | arrived arrives => exact .arrived arrives
  | unchosen last fails => exact .unchosen last fails
  | halted comes reaches fewer halts first =>
      exact .halted (comes.mono begun) (same.reached.trans reaches) fewer halts
        (first.trans (List.prefix_append _ _))

end Runner.Stops

/-- A run leaves off after the passages that come after a first one as it does after all of them. -/
theorem Runner.LeavesOff.cons {σ : Type} {world : World σ} {limit : Nat} {key next : String}
    {state earlier saved final : σ} {closing : List Request.Answered} {ending : StepsEnd}
    (leads : passage.after.Leads passage.step.id (some next)) (continues : inst.Continues other)
    (same : passage.after.SameProgress other) (moved : other.currentStep = .text next)
    (kept : world (.save other) earlier (.ok ()) saved)
    (leaves : runner.LeavesOff world limit other next saved passages closing ending final) :
    runner.LeavesOff world (limit + 1) inst key state (passage :: passages) closing ending
      final := by
  cases leaves with
  | halts comes stays reaches stands fewer halts =>
      refine .halts (comes.cons leads) (continues.trans stays) ?_ (.inr ?_) ?_ halts
      · rw [Instance.reached_cons]
        exact same.reached.trans reaches
      · rcases stands with ⟨rfl, rfl, rfl⟩ | later
        · cases comes
          exact ⟨moved, earlier, kept⟩
        · exact later
      · rw [List.length_cons, ← fewer, Nat.add_right_comm]
  | finishes last stays fewer finishes =>
      refine .finishes ?_ (continues.trans stays) (Nat.succ_le_succ fewer) finishes
      rw [Option.mem_def] at last ⊢
      rw [List.getLast?_cons, last]
      rfl

/-- A route goes on from a passage that leads to it. -/
theorem Runner.Route.cons {definition : Definition} (sound : passage.Sound runner definition)
    (route : runner.Route definition passages)
    (links : ∀ first ∈ passages.head?, passage.Links first) :
    runner.Route definition (passage :: passages) :=
  ⟨List.forall_mem_cons.mpr ⟨sound, route.sound⟩, List.isChain_cons.mpr ⟨links, route.linked⟩⟩

theorem startsAt_of_firstStep? {key : String} (starts : firstStep? inst = some key) :
    inst.StartsAt key := by
  unfold firstStep? at starts
  split at starts
  · next id current =>
      split at starts
      · next empty =>
          rcases Option.map_eq_some_iff.mp starts with ⟨step, entry, rfl⟩
          refine .entry (fun key named => ?_) entry
          rw [current] at named
          cases named
          exact empty
      · next nonempty =>
          cases starts
          exact .current current nonempty
  · next unnamed =>
      rcases Option.map_eq_some_iff.mp starts with ⟨step, entry, rfl⟩
      exact .entry (fun key named => absurd named (unnamed key)) entry

/-- What processing a step does to the instance. -/
theorem Runner.Processes.completes_or_skips {entry exit course : List Request.Answered}
    {step : Step} {after : Instance} (processes : runner.Processes inst step course after) :
    let passage : Passage := ⟨entry, inst, step, course, after, exit⟩
    passage.Completes runner ∨ passage.Skips runner := by
  cases processes with
  | skipped policy declined idle =>
      exact .inr ⟨policy, ⟨_, Condition.firstFalse?_eq_some declined⟩, idle.filter_isUse, rfl, rfl,
        rfl⟩
  | gate ready inactive _ =>
      exact .inl ⟨Condition.firstFalse?_eq_none.mp ready, rfl, rfl, .inl ⟨inactive, rfl⟩⟩
  | acted ready acts renders _ only =>
      exact .inl ⟨Condition.firstFalse?_eq_none.mp ready, rfl, rfl,
        .inr ⟨_, _, _, _, acts, renders, only, rfl⟩⟩

end Routes

/-! ## Runs -/

/-- How the steps of a run end at an instance: the run completes if its passages arrived there, and
otherwise fails or is stopped. -/
def StepsEnd.Accords (stood : Instance) (arrived : Prop) : StepsEnd → Prop
  | .finished inst => inst.state = .completed ↔ arrived
  | .stopped stored => stored.state.interrupts = true ∧ ¬ arrived
  | .raised inst _ => stood.SameProgress inst ∧ inst.state = .running ∧ ¬ arrived

theorem StepsEnd.Accords.of_same {stood after : Instance} {arrived : Prop} {ending : StepsEnd}
    (accords : ending.Accords after arrived) (same : stood.SameProgress after) :
    ending.Accords stood arrived := by
  cases ending with
  | finished | stopped => exact accords
  | raised inst failure => exact ⟨same.trans accords.1, accords.2⟩

section Runs

variable {σ : Type} {records : Records σ} {actors : Actors σ} {runner : Runner} {inst : Instance}
variable {state final : σ} {exchanges : List Request.Answered}

theorem same_moved (runner : Runner) (inst : Instance) (key : String) :
    inst.SameProgress (runner.moved inst key) :=
  ⟨rfl, rfl, rfl⟩

theorem same_failed (runner : Runner) (inst : Instance) (message : String) :
    inst.SameProgress (runner.failed inst message) :=
  ⟨rfl, rfl, rfl⟩

theorem same_marked (runner : Runner) (inst : Instance) (step : Step) (error : StepError) :
    inst.SameProgress (runner.marked inst step error) :=
  ⟨rfl, rfl, rfl⟩

theorem enters_saved {world : World σ} {key : String} {step : Step}
    (enters : runner.Enters world inst key step state exchanges final) :
    exchanges.filterMap (·.saved?) = [runner.moved inst key] := by
  cases enters with
  | saved _ looks _ => simp [(idle_checkInterrupted looks).executing.filterMap_saved]

theorem enters_savesOnly {world : World σ} {key : String} {step : Step}
    (enters : runner.Enters world inst key step state exchanges final) :
    SavesOnly inst.SameProgress exchanges := by
  rw [SavesOnly, enters_saved enters]
  exact List.forall_mem_singleton.mpr (same_moved runner inst key)

/-- The failure of a step changes nothing about the progress of a run. -/
theorem failStep_accords {step : Step} {error : StepError} {ending : FailingEnd}
    (running : inst.state = .running)
    (fails : Ends (records.world actors) (runner.failStep inst step error) state exchanges ending
      final) :
    SavesOnly inst.SameProgress exchanges ∧ ending.toStepsEnd.Accords inst False := by
  have marked := same_marked runner inst step error
  rcases failStep_ends running fails with ⟨logged, undone, logs, failing⟩
  rcases failing with ⟨failure, rfl, compensates, rfl⟩ |
    ⟨kept, _, _, told, tells, rfl, compensates, saved, _, rfl⟩
  · refine ⟨?_, marked, running, id⟩
    simp [logs.savesOnly, compensates.savesOnly]
  · rcases saved with ⟨rfl, _⟩
    have failed := marked.trans (same_failed runner _ error.message)
    refine ⟨?_, iff_of_false (by rintro ⟨⟩) id⟩
    simp [logs.savesOnly, tells.savesOnly, compensates.savesOnly, failed]

theorem halts_accords {remaining : Nat} {key : String} {ending : StepsEnd}
    (running : inst.state = .running)
    (halts : runner.Halts (records.world actors) inst key state remaining exchanges ending final) :
    SavesOnly inst.SameProgress exchanges ∧ ending.Accords inst False := by
  have active : (runner.moved inst key).state.isTerminal = false := active_of_running running
  have moved := same_moved runner inst key
  cases halts with
  | interrupted looks =>
      exact ⟨(idle_checkInterrupted looks).savesOnly, checkInterrupted_stopped looks, id⟩
  | unlooked looks | unknown looks _ =>
      exact ⟨(idle_checkInterrupted looks).savesOnly, .refl inst, running, id⟩
  | exceeded looks _ exceeds =>
      rcases exceedLimit_ends running exceeds with
        ⟨logged, kept, _, _, told, logs, tells, rfl, saved, rfl⟩
      rcases saved with ⟨rfl, _⟩
      refine ⟨?_, iff_of_false (by rintro ⟨⟩) id⟩
      simp [(idle_checkInterrupted looks).savesOnly, logs.savesOnly, tells.savesOnly, same_failed]
  | unentered _ _ saved => cases saved.1
  | failed enters executes fails =>
      have stays : (runner.moved inst key).state = .running := running
      rcases failStep_accords stays fails with ⟨saves, accords⟩
      have failing := saves.mono fun _ => moved.trans
      refine ⟨?_, accords.of_same moved⟩
      simp [enters_savesOnly enters, (executeStep_ends active executes).1.savesOnly, failing]
  | stopped enters executes =>
      rcases executeStep_ends active executes with ⟨executing, stopped⟩
      refine ⟨?_, stopped, id⟩
      simp [enters_savesOnly enters, executing.savesOnly]
  | raised enters executes =>
      rcases executeStep_ends active executes with ⟨executing, _⟩
      refine ⟨?_, moved, running, id⟩
      simp [enters_savesOnly enters, executing.savesOnly]

/-- A step that a run processed makes up a passage. -/
theorem sound_passage {world : World σ} {key : String} {step : Step} {after : Instance}
    {middle : σ} {entry course exit : List Request.Answered} (running : inst.state = .running)
    (keyed : inst.definition.Keyed) (enters : runner.Enters world inst key step state entry middle)
    (executes : Ends world (runner.executeStep (runner.moved inst key) step) middle course
      (.processed after) final)
    (left : SavesOnly after.SameProgress exit) :
    step.id = key ∧ inst.Continues after ∧
      Passage.Sound runner inst.definition
        ⟨entry, runner.moved inst key, step, course, after, exit⟩ := by
  have active : (runner.moved inst key).state.isTerminal = false := active_of_running running
  rcases executeStep_ends active executes with ⟨executing, processes⟩
  have processes : runner.Processes (runner.moved inst key) step course after := processes
  rcases processes.continues with ⟨sameId, sameDefinition, sameState, sameFailures⟩
  have found : inst.definition.step? key = some step := by
    cases enters
    assumption
  obtain rfl := keyed.id_of_step? found
  exact ⟨rfl, ⟨sameId, sameDefinition, sameState, sameFailures⟩,
    found, rfl, ⟨rfl, sameDefinition⟩, enters_saved enters, processes.completes_or_skips,
    executing.filterMap_saved, left⟩

/-- A step that a run goes on from makes up a passage that leads to the step it goes on to. -/
theorem passage_onward {world : World σ} {key next : String} {step : Step} {after : Instance}
    {middle between : σ} {entry course choice : List Request.Answered}
    (running : inst.state = .running) (keyed : inst.definition.Keyed)
    (enters : runner.Enters world inst key step state entry middle)
    (executes : Ends world (runner.executeStep (runner.moved inst key) step) middle course
      (.processed after) between)
    (chooses : Ends world (selectNext after key) between choice (.ok (some next)) final) :
    step.id = key ∧ after.Leads step.id (some next) ∧ inst.Continues (runner.moved after next) ∧
      Passage.Sound runner inst.definition ⟨entry, runner.moved inst key, step, course, after,
        choice ++ [⟨.save (runner.moved after next), .ok ()⟩]⟩ := by
  rcases selectNext_ends chooses with ⟨idle, chosen⟩
  have left : SavesOnly after.SameProgress
      (choice ++ [⟨.save (runner.moved after next), .ok ()⟩]) := by
    simp [idle.savesOnly, same_moved]
  rcases sound_passage running keyed enters executes left with ⟨rfl, continues, sound⟩
  exact ⟨rfl, chosenStep_eq_ok.mp chosen.symm, ⟨continues.id_eq, continues.definition_eq,
    continues.state_eq, continues.failures_eq⟩, sound⟩

theorem finishes_accords {key : String} {ending : StepsEnd} (running : inst.state = .running)
    (finishes : runner.Finishes (records.world actors) inst key state exchanges ending final) :
    SavesOnly inst.SameProgress exchanges ∧ ending.Accords inst (inst.Leads key none) := by
  cases finishes with
  | unchosen chooses =>
      rcases selectNext_ends chooses with ⟨idle, fails⟩
      refine ⟨idle.savesOnly, .refl inst, running, fun leads => ?_⟩
      rw [chosenStep_eq_ok.mpr leads] at fails
      cases fails
  | completes chooses completes =>
      rcases selectNext_ends chooses with ⟨idle, chosen⟩
      rcases completeRun_ends running completes with ⟨kept, _, told, rfl, saved, tells, rfl⟩
      rcases saved with ⟨rfl, _⟩
      have finished : inst.SameProgress (runner.finished inst) := ⟨rfl, rfl, rfl⟩
      refine ⟨?_, iff_of_true rfl (chosenStep_eq_ok.mp chosen.symm)⟩
      simp [idle.savesOnly, tells.savesOnly, finished]
  | unleft _ saved => cases saved.1

/-- A run that ends after a step comes to no other step. -/
theorem finishes_stops {key : String} {ending : StepsEnd}
    (finishes : runner.Finishes (records.world actors) inst key state exchanges ending final) :
    inst.Leads key none ∨ ∃ failure, chosenStep inst key = .error failure := by
  cases finishes with
  | unchosen chooses => exact .inr ⟨_, (selectNext_ends chooses).2.symm⟩
  | completes chooses _ => exact .inl (chosenStep_eq_ok.mp (selectNext_ends chooses).2.symm)
  | unleft _ saved => cases saved.1

/-- The steps that a run processes from a key on make up a route, and the run leaves off after
it. -/
theorem drives_passages {world : World σ} {remaining : Nat} {key : String} {ending : StepsEnd}
    (running : inst.state = .running) (keyed : inst.definition.Keyed)
    (drives : runner.Drives world remaining inst key state exchanges ending final) :
    ∃ (passages : List Passage) (closing : List Request.Answered),
      exchanges = passages.flatMap Passage.exchanges ++ closing ∧
      runner.Route inst.definition passages ∧
      (∀ first ∈ passages.head?, first.step.id = key ∧ inst.SameProgress first.before) ∧
      runner.LeavesOff world remaining inst key state passages closing ending final := by
  induction drives with
  | @halts _ inst _ _ _ last _ halts =>
      exact ⟨[], last, rfl, ⟨by simp, .nil⟩, by simp,
        .halts rfl ⟨rfl, rfl, rfl, rfl⟩ (.refl inst) (.inl ⟨rfl, rfl, rfl⟩) (Nat.zero_add _) halts⟩
  | @finishes _ inst after key step _ _ _ _ entry course last ending enters executes finishes =>
      rcases sound_passage running keyed enters executes savesOnly_nil with
        ⟨rfl, continues, sound⟩
      refine ⟨[⟨entry, runner.moved inst step.id, step, course, after, []⟩], last, ?_,
        .cons sound ⟨by simp, .nil⟩ (by simp), ?_,
        .finishes rfl continues (Nat.le_add_left 1 _) finishes⟩
      · simp [Passage.exchanges]
      · simp [same_moved]
  | @passes _ inst after key next step _ _ _ _ _ _ entry course choice rest _ enters executes
      chooses saved _ ih =>
      rcases passage_onward running keyed enters executes chooses with ⟨rfl, leads, goesOn, sound⟩
      have moved := same_moved runner after next
      rw [← goesOn.definition_eq] at keyed
      -- the rest of the run begins where this passage leads, with the progress that it left
      rcases ih (goesOn.state_eq.trans running) keyed with
        ⟨passages, closing, rfl, route, starts, leaves⟩
      rw [goesOn.definition_eq] at route
      refine ⟨⟨entry, runner.moved inst step.id, step, course, after, _⟩ :: passages, closing, ?_,
        route.cons sound ?_, ?_, leaves.cons leads goesOn moved rfl saved⟩
      · simp [Passage.exchanges]
      · intro first member
        rcases starts first member with ⟨rfl, same⟩
        exact ⟨leads, moved.trans same⟩
      · simp [same_moved]

/-- How a run leaves off decides what it saves from then on, and how its steps end. -/
theorem leavesOff_accords {remaining : Nat} {key : String} {passages : List Passage}
    {closing : List Request.Answered} {ending : StepsEnd} (running : inst.state = .running)
    (leaves : runner.LeavesOff (records.world actors) remaining inst key state passages closing
      ending final) :
    SavesOnly (inst.reached passages).SameProgress closing ∧
      ending.Accords (inst.reached passages) (Arrives passages) ∧
      runner.Stops (records.world actors) remaining (· = key) inst passages closing := by
  cases leaves with
  | halts comes continues same _ fewer halts =>
      rcases halts_accords (continues.state_eq.trans running) halts with ⟨saves, accords⟩
      rw [← eq_false comes.not_arrives] at accords
      exact ⟨saves.mono fun _ => same.trans, accords.of_same same,
        .halted comes same fewer halts (List.prefix_refl closing)⟩
  | @finishes last _ _ _ _ final continues fewer finishes =>
      rcases finishes_accords (continues.state_eq.trans running) finishes with ⟨saves, accords⟩
      rw [Instance.reached_of_getLast? final, propext (arrives_of_getLast? final)]
      refine ⟨saves, accords, ?_⟩
      rcases finishes_stops finishes with nowhere | ⟨failure, fails⟩
      · exact .arrived ⟨last, final, nowhere⟩
      · exact .unchosen final fails

/-- The steps of a run make up a route from the key it is given. -/
theorem drives_route {remaining : Nat} {key : String} {ending : StepsEnd}
    (running : inst.state = .running) (keyed : inst.definition.Keyed)
    (drives : runner.Drives (records.world actors) remaining inst key state exchanges ending
      final) :
    ∃ (passages : List Passage) (closing : List Request.Answered),
      exchanges = passages.flatMap Passage.exchanges ++ closing ∧
      runner.Route inst.definition passages ∧
      (∀ first ∈ passages.head?, first.step.id = key ∧ inst.SameProgress first.before) ∧
      SavesOnly (inst.reached passages).SameProgress closing ∧
      ending.Accords (inst.reached passages) (Arrives passages) ∧
      runner.Stops (records.world actors) remaining (· = key) inst passages closing := by
  rcases drives_passages running keyed drives with
    ⟨passages, closing, whole, route, starts, leaves⟩
  exact ⟨passages, closing, whole, route, starts, leavesOff_accords running leaves⟩

/-- What a run returns, by how its steps ended. -/
theorem conclude_accords {id : String} {arrived : Prop} {ending : StepsEnd}
    {outcome : Except Failure Instance} (accords : ending.Accords inst arrived)
    (ended : Ends (records.world actors) (runner.conclude id ending) state exchanges outcome
      final) :
    SavesOnly inst.SameProgress exchanges ∧
      ((∃ result, outcome = .ok result ∧ result.state = .completed) ↔ arrived) := by
  cases ending with
  | finished last =>
      rcases ends_done.mp ended with ⟨rfl, rfl, _⟩
      refine ⟨savesOnly_nil, Iff.trans ?_ accords⟩
      simp
  | stopped stored =>
      rcases accords with ⟨interrupts, unarrived⟩
      rcases conclude_stopped_ends ended with ⟨idle, rfl⟩
      refine ⟨idle.savesOnly, iff_of_false ?_ unarrived⟩
      rintro ⟨_, ⟨⟩, completed⟩
      rw [completed] at interrupts
      cases interrupts
  | raised last failure =>
      rcases accords with ⟨same, running, unarrived⟩
      rcases conclude_raised_ends running ended with
        ⟨logged, kept, _, _, told, logs, tells, rfl, _, _, rfl⟩
      have failed := same.trans (same_failed runner last failure.abortMessage)
      refine ⟨by simp [logs.savesOnly, tells.savesOnly, failed], iff_of_false ?_ unarrived⟩
      rintro ⟨_, returns, _⟩
      cases kept <;> cases returns

theorem same_begun (runner : Runner) (inst : Instance) : inst.SameProgress (runner.begun inst) := by
  unfold Runner.begun
  split <;> exact ⟨rfl, rfl, rfl⟩

theorem firstStep?_begun (runner : Runner) (inst : Instance) :
    firstStep? (runner.begun inst) = firstStep? inst := by
  unfold Runner.begun
  split <;> rfl

/-- Every course of the run of an instance that has not ended and whose definition has steps. -/
theorem run_drives (active : inst.state.isActive = true) (nonempty : inst.definition.steps ≠ [])
    {outcome : Except Failure Instance}
    (ended : Ends (records.world actors) (runner.run inst) state exchanges outcome final) :
    ∃ opening driven closing key ending start between,
      exchanges = opening ++ (driven ++ closing) ∧ Opens runner inst opening ∧ inst.StartsAt key ∧
      runner.Drives (records.world actors) runner.settings.maxSteps.toNat (runner.begun inst) key
        start driven ending between ∧
      Ends (records.world actors) (runner.conclude (runner.begun inst).id ending) between closing
        outcome final := by
  rcases run_ends active ended with ⟨_, _, saved, _⟩ | ⟨opening, _, _, rfl, opens, drives⟩
  · cases saved.1
  rcases drive_ends (runner.begun_state inst) drives with
    ⟨unstarted, _⟩ | ⟨key, driven, closing, ending, _, starts, rfl, drives, concludes⟩
  · rw [firstStep?_begun] at unstarted
    exact absurd unstarted (firstStep?_ne_none nonempty)
  · rw [firstStep?_begun] at starts
    exact ⟨opening, driven, closing, key, ending, _, _, rfl, opens, startsAt_of_firstStep? starts,
      drives, concludes⟩

/-- Every such course is a route and what is asked before and after it. -/
theorem run_leavesOff (active : inst.state.isActive = true) (read : inst.definition.IsRead)
    {outcome : Except Failure Instance}
    (ended : Ends (records.world actors) (runner.run inst) state exchanges outcome final) :
    ∃ opening passages closing told key ending start between,
      exchanges = opening ++ (passages.flatMap Passage.exchanges ++ (closing ++ told)) ∧
      Opens runner inst opening ∧ inst.StartsAt key ∧ runner.Route inst.definition passages ∧
      (∀ first ∈ passages.head?, first.step.id = key ∧ inst.SameProgress first.before) ∧
      runner.LeavesOff (records.world actors) runner.settings.maxSteps.toNat (runner.begun inst) key
        start passages closing ending between ∧
      Ends (records.world actors) (runner.conclude (runner.begun inst).id ending) between told
        outcome final := by
  rcases run_drives active read.wellFormed.steps_ne_nil ended with
    ⟨opening, driven, told, key, ending, start, between, rfl, opens, starts, drives, concludes⟩
  have keyed : (runner.begun inst).definition.Keyed := by
    rw [runner.begun_definition]
    exact read.wellFormed.id_of_mem_steps
  rcases drives_passages (runner.begun_state inst) keyed drives with
    ⟨passages, closing, rfl, route, heads, leaves⟩
  rw [runner.begun_definition] at route
  refine ⟨opening, passages, closing, told, key, ending, start, between, by simp, opens, starts,
    route, fun first member => ?_, leaves, concludes⟩
  rcases heads first member with ⟨here, same⟩
  exact ⟨here, (same_begun runner inst).trans same⟩

end Runs

end Workflow
