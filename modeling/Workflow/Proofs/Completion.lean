import Workflow.Proofs.Building
import Workflow.Proofs.Reporting
import Workflow.Proofs.Route

/-!
# Runs along a line of steps

When every action succeeds, a run of a line processes all of its steps, each of them once and in
their order, and completes.  A step is completed if its preconditions hold on the data that the steps
before it left, and skipped if not.
-/

namespace Workflow

open Proc

/-! ## Lines -/

/-- In a list of distinct items, an item has only the next one for a neighbour behind it. -/
theorem filter_zip_tail {ids before after : List String} {key : String} (distinct : ids.Nodup)
    (split : ids = before ++ key :: after) :
    (ids.zip ids.tail).filter (·.1 == key) = (after.head?.map (key, ·)).toList := by
  subst split
  induction before with
  | nil =>
      rw [List.nil_append, List.tail_cons] at *
      cases after with
      | nil => rfl
      | cons next later =>
          have others : ((next :: later).zip later).filter (·.1 == key) = [] := by
            rw [List.filter_eq_nil_iff]
            intro pair member same
            have inside := (List.of_mem_zip member).1
            rw [eq_of_beq same] at inside
            exact (List.nodup_cons.mp distinct).1 inside
          simp [others]
  | cons first rest ih =>
      have other : (first == key) = false := by
        rw [beq_eq_false_iff_ne]
        rintro rfl
        exact (List.nodup_cons.mp distinct).1 (by simp)
      have onward := ih (List.nodup_cons.mp distinct).2
      cases rest with
      | nil => simpa [other] using onward
      | cons second others => simpa [other] using onward

namespace Definition.Line

variable {definition : Definition} {inst : Instance}

/-- A step of a line leads to the one after it, if there is one. -/
theorem leads (line : definition.Line) (same : inst.definition = definition)
    {before later : List (String × Step)} {entry : String × Step}
    (split : definition.steps = before ++ entry :: later) :
    inst.Leads entry.1 (later.head?.map (·.1)) := by
  have ids : definition.stepIds = before.map (·.1) ++ entry.1 :: later.map (·.1) := by
    simp [stepIds, split]
  have outgoing : (definition.outgoing entry.1).map
      (fun link => (link.source, link.target, link.condition)) =
        (later.head?.map fun next => (entry.1, next.1, none)).toList := by
    calc
      _ = (definition.transitions.map fun link =>
            (link.source, link.target, link.condition)).filter (·.1 == entry.1) := by
        rw [List.filter_map]
        rfl
      _ = ((definition.stepIds.zip definition.stepIds.tail).filter (·.1 == entry.1)).map
            fun pair => (pair.1, pair.2, none) := by
        rw [line.links, List.filter_map]
        rfl
      _ = _ := by
        rw [filter_zip_tail line.distinct ids]
        cases later <;> rfl
  rw [← same] at outgoing
  cases later with
  | nil => exact .ends (List.map_eq_nil_iff.mp outgoing)
  | cons next rest =>
      rcases List.map_eq_singleton_iff.mp outgoing with ⟨link, only, parts⟩
      simp only [Prod.mk.injEq] at parts
      rcases parts with ⟨_, target, unconditional⟩
      have fires : link.Fires inst.data := by
        rw [Transition.Fires, unconditional]
        trivial
      have alone : inst.definition.outgoing entry.1 = [] ++ link :: [] := only
      have leads : inst.Leads entry.1 (some link.target) := .fires alone (by simp) fires
      rwa [target] at leads

end Definition.Line

/-! ## Actions that succeed -/

/-- Every action is made and permitted and gives a success, and none calls for anything to be done
to the store. -/
structure Actors.Prosper {σ : Type} (actors : Actors σ) : Prop extends actors.Still where
  made : ∀ {invocation state answer after}, actors.make invocation state answer after →
    answer = .ok ()
  permitted : ∀ {invocation state answer after}, actors.permits invocation state answer after →
    answer = .ok true
  performed : ∀ {invocation state answer after}, actors.perform invocation state answer after →
    ∃ result, answer = .ok (.result result) ∧ result.succeeded = true

/-- Every action and every wait comes to an end, in some way. -/
structure Actors.Total {σ : Type} (actors : Actors σ) : Prop where
  make : ∀ invocation state, ∃ answer after, actors.make invocation state answer after
  permits : ∀ invocation state, ∃ answer after, actors.permits invocation state answer after
  perform : ∀ invocation state, ∃ answer after, actors.perform invocation state answer after
  sleep : ∀ seconds state, ∃ answer after, actors.sleep seconds state answer after

/-- Whether the preconditions of a step evaluate on the data of an instance, and its parameters
render if they all hold. -/
def Instance.serves (inst : Instance) (step : Step) : Bool :=
  match Condition.firstFalse? .text (.dict inst.data) step.conditions with
  | .ok none => (renderParameters inst step).isOk
  | .ok (some _) => true
  | .error _ => false

/-- Whether an instance that runs serves the step that it stands at. -/
def Instance.isServing (inst : Instance) : Bool :=
  match inst.state, inst.currentStep with
  | .running, .text key => (inst.definition.step? key).all inst.serves
  | _, _ => true

section Steps

variable {σ : Type} {records : Records σ} {actors : Actors σ} {runner : Runner} {inst : Instance}
variable {step : Step} {state final : σ} {exchanges : List Request.Answered}

/-- A run ends in some way when all actions do. -/
theorem Actors.Total.exists_ends {α : Type} (total : actors.Total) (proc : Proc α) (state : σ) :
    ∃ exchanges value final, Ends (records.world actors) proc state exchanges value final := by
  have answers : ∀ request (middle : σ), True →
      ∃ answer final, records.world actors request middle answer final := by
    intro request middle _
    cases request with
    | contains | load | save | remove => exact ⟨_, _, rfl, rfl⟩
    | make invocation => exact total.make invocation middle
    | permits invocation => exact total.permits invocation middle
    | perform invocation => exact total.perform invocation middle
    | sleep seconds => exact total.sleep seconds middle
    | list => exact ⟨.ok [], middle, rfl⟩
    | draw => exact ⟨.zero, middle, rfl⟩
    | freshId => exact ⟨"", middle, rfl⟩
    | emit => exact ⟨true, middle, rfl⟩
    | log => exact ⟨(), middle, rfl⟩
    | http => exact ⟨.unreached "", middle, rfl⟩
  rcases (keeps_trivial proc state).exists_ends answers with ⟨exchanges, value, final, ended, _⟩
  exact ⟨exchanges, value, final, ended⟩

theorem checkInterrupted_quiet {id : String} {interruption : Interruption}
    (quiet : records.Quiet id state)
    (ended : Ends (records.world actors) (checkInterrupted id) state exchanges interruption final) :
    interruption = .none := by
  rw [checkInterrupted_eq] at ended
  rcases ends_ask.mp ended with ⟨_, _, rest, _, ⟨rfl, rfl⟩, ended⟩
  rw [(ends_done.mp ended).2.1]
  exact quiet.look

theorem attemptOnce_prospers {action : String} {context : Context} {attempt : Nat}
    {outcome : Except StepError ActionResult} (prosper : actors.Prosper)
    (ended : Ends (records.world actors) (attemptOnce step action context attempt) state exchanges
      outcome final) :
    final = state ∧ ∃ result, outcome = .ok result := by
  rcases ends_ask.mp ended with ⟨_, _, rest, _, answered, ended⟩
  cases prosper.permitted answered
  cases prosper.toStill.permits answered
  rcases ends_ask.mp ended with ⟨_, _, rest, _, answered, ended⟩
  rcases prosper.performed answered with ⟨result, rfl, succeeded⟩
  cases prosper.toStill.perform answered
  rcases ends_done.mp ended with ⟨_, rfl, rfl⟩
  refine ⟨rfl, result, ?_⟩
  simp [Step.attemptResult, succeeded]

/-- The first attempt succeeds. -/
theorem Runner.Tries.prospers {action : String} {context : Context} {fuel attempt : Nat}
    {ending : AttemptsEnd} (prosper : actors.Prosper) (quiet : records.Quiet inst.id state)
    (tries : runner.Tries (records.world actors) inst step action context fuel attempt state
      exchanges ending final) :
    ∃ result, ending = .succeeded result := by
  cases tries with
  | interrupted tries looks | unlooked tries looks =>
      cases (attemptOnce_prospers prosper tries).1
      cases checkInterrupted_quiet quiet looks
  | @succeeded _ _ _ _ _ _ _ result => exact ⟨result, rfl⟩
  | failed tries | unwaited tries | again tries =>
      rcases (attemptOnce_prospers prosper tries).2 with ⟨_, ⟨⟩⟩

theorem act_prospers {action : String} {config : Dict} {ending : StepEnd}
    (prosper : actors.Prosper) (active : inst.state.isTerminal = false)
    (quiet : records.Quiet inst.id state) (registered : action ∈ runner.actions)
    (ended : Ends (records.world actors) (runner.act inst step action config) state exchanges ending
      final) :
    ∃ after, ending = .processed after := by
  have contained : runner.actions.contains action = true := by simpa using registered
  simp only [Runner.act, contained, Bool.not_true, Bool.false_eq_true, if_false] at ended
  rcases ends_ask.mp ended with ⟨_, _, rest, _, answered, ended⟩
  cases prosper.made answered
  cases prosper.toStill.make answered
  rw [done_bind] at ended
  rcases ends_bind.mp ended with ⟨_, _, _, rest, _, attempts, ended⟩
  rcases (tries_of_ends attempts).prospers prosper quiet with ⟨result, rfl⟩
  exact ⟨_, (complete_ends active ended).2⟩

/-- A step is processed when its actions succeed and the instance serves it. -/
theorem executeStep_prospers {ending : StepEnd} (prosper : actors.Prosper)
    (policy : runner.settings.policy = .skip) (active : inst.state.isTerminal = false)
    (quiet : records.Quiet inst.id state) (serves : inst.serves step = true)
    (registered : ∀ action ∈ step.action, action ∈ runner.actions)
    (ended : Ends (records.world actors) (runner.executeStep inst step) state exchanges ending
      final) :
    ∃ after, ending = .processed after := by
  unfold Instance.serves at serves
  unfold Runner.executeStep at ended
  split at serves
  · next evaluates =>
      simp only [evaluates] at ended
      rcases ends_bind.mp ended with ⟨_, _, middle, rest, _, logs, ended⟩
      rcases ends_ask.mp logs with ⟨_, _, _, _, stays, logs⟩
      cases stays
      cases (ends_done.mp logs).2.2
      cases renders : renderParameters inst step with
      | error failure =>
          rw [renders] at serves
          cases serves
      | ok config =>
          simp only [renders] at ended
          cases action : step.action with
          | none =>
              simp only [action] at ended
              exact ⟨_, (complete_ends active ended).2⟩
          | some name =>
              simp only [action] at ended
              exact act_prospers prosper active quiet (registered name action) ended
  · next condition evaluates =>
      have skips : inst.markSkipped (.text step.id) runner.now =
          .ok (runner.passedOver inst step) :=
        Instance.markSkipped_eq_ok.mpr ⟨active, rfl⟩
      simp only [evaluates, Runner.declineStep, policy, skips] at ended
      rcases ends_bind.mp ended with ⟨_, _, _, _, _, _, ended⟩
      exact ⟨_, (ends_done.mp ended).2.1⟩
  · cases serves

end Steps

/-! ## Runs -/

section Runs

variable {σ : Type} {records : Records σ} {actors : Actors σ} {runner : Runner}
variable {definition : Definition} {inst : Instance} {state final : σ} {key : String}
variable {exchanges : List Request.Answered}

/-- What a run of a line needs: steps are skipped whose preconditions do not hold, every action
that a step names is registered, and succeeds. -/
structure Runner.Prospers (runner : Runner) (actors : Actors σ) (definition : Definition) : Prop
    where
  actors : actors.Prosper
  policy : runner.settings.policy = .skip
  registered : ∀ entry ∈ definition.steps, ∀ action ∈ entry.2.action, action ∈ runner.actions

/-- A step that a run comes to is processed. -/
theorem Runner.Enters.processes {step : Step} {ending : StepEnd} {middle : σ}
    {course : List Request.Answered} (prospers : runner.Prospers actors inst.definition)
    (running : inst.state = .running)
    (enters : runner.Enters (records.world actors) inst key step state exchanges middle)
    (serving : SavesOnly (·.isServing = true) exchanges)
    (executes : Ends (records.world actors) (runner.executeStep (runner.moved inst key) step) middle
      course ending final) :
    ∃ after, ending = .processed after := by
  have saved := enters_saved enters
  cases enters with
  | @saved _ between _ found _ kept =>
      rcases kept with ⟨_, rfl⟩
      have serves : (runner.moved inst key).serves step = true := by
        rw [SavesOnly, saved, List.forall_mem_singleton] at serving
        simpa [Instance.isServing, Runner.moved, running, found] using serving
      rcases List.lookup_eq_some_iff.mp found with ⟨before, after, split, _⟩
      have member : (key, step) ∈ inst.definition.steps := by
        rw [split]
        simp
      have active : (runner.moved inst key).state.isTerminal = false := active_of_running running
      have quiet : records.Quiet inst.id (records.save between (runner.moved inst key)) :=
        quiet_moved running rfl
      exact executeStep_prospers prospers.actors prospers.policy active quiet serves
        (prospers.registered _ member) executes

section Line

variable {before rest : List (String × Step)} {entry : String × Step} {step : Step}
variable {after : Instance} {middle : σ} {entering course exit : List Request.Answered}

end Line

end Runs

/-! ## What was completed and what was skipped -/

/-- Whether all preconditions of the step of a passage held on the data that it was entered with. -/
def Passage.isReady (passage : Passage) : Bool :=
  passage.step.conditions.all fun condition =>
    (Condition.evaluate (.text condition) (.dict passage.before.data)).toOption == some true

section Progress

variable {runner : Runner} {definition : Definition} {passage : Passage} {passages : List Passage}

theorem Passage.Completes.isReady (completes : passage.Completes runner) :
    passage.isReady = true := by
  rw [Passage.isReady, List.all_eq_true]
  intro condition member
  rw [completes.ready condition member]
  rfl

theorem Passage.Skips.isReady (skips : passage.Skips runner) : passage.isReady = false := by
  rcases skips.declined with ⟨condition, member, declines⟩
  rw [Passage.isReady, List.all_eq_false]
  refine ⟨condition, member, ?_⟩
  rw [declines]
  simp [Except.toOption]

/-- Along a route the steps are completed whose preconditions held, and the others are skipped. -/
theorem Runner.Route.progress {inst : Instance} (route : runner.Route definition passages)
    (starts : ∀ first ∈ passages.head?, inst.SameProgress first.before) :
    (inst.reached passages).completed =
        inst.completed ++ (passages.filter (·.isReady)).map (.text ·.step.id) ∧
      (inst.reached passages).skipped =
        inst.skipped ++ (passages.filter (!·.isReady)).map (.text ·.step.id) := by
  induction passages generalizing inst with
  | nil => simp [Instance.reached]
  | cons passage rest ih =>
      rcases List.forall_mem_cons.mp route.sound with ⟨sound, others⟩
      rcases List.isChain_cons.mp route.linked with ⟨links, linked⟩
      have same : inst.SameProgress passage.before := starts passage rfl
      have onward := @ih passage.after ⟨others, linked⟩ fun next member => (links next member).same
      rw [Instance.reached_cons, onward.1, onward.2]
      rcases sound.processed with completes | skips
      · simp [completes.isReady, completes.completed_eq, completes.skipped_eq, same.completed_eq,
          same.skipped_eq]
      · simp [skips.isReady, skips.completed_eq, skips.skipped_eq, same.completed_eq,
          same.skipped_eq]

end Progress

/-! ## Runs of what was built -/

section Built

variable {σ : Type} {records : Records σ} {actors : Actors σ} {runner : Runner}
variable {definition : Definition} {start final : σ} {exchanges : List Request.Answered}
variable {outcome : Except Failure Instance}

end Built

/-! ## An order that is reviewed only if it is large -/

/-- Calls that add a step, another one for large orders only, and a last one. -/
def BuilderCall.reviewing : List BuilderCall :=
  [.append (.ofAction .null (.text "act") .null),
    .block (.text "total > 100") [.append (.ofAction (.text "review") (.text "act") .null)],
    .append (.ofAction .null (.text "act") .null)]

/-- A draft without steps. -/
def Draft.order : Draft :=
  ⟨"order", .text "1.0", .null, [], [], [], []⟩

/-- The definition that these calls build. -/
def Definition.reviewing : Definition :=
  let acts (id : String) (conditions : List String) : String × Step :=
    (id, { Step.named id with action := some "act", conditions })
  ⟨"order", "1.0", [acts "step_1" [], acts "review" ["total > 100"], acts "step_3" []],
    [⟨"step_1", "review", none, []⟩, ⟨"review", "step_3", none, []⟩], []⟩

theorem prospers_reviewing :
    Runner.plain.Prospers (σ := MemoryStore) Repertoire.succeeding.deeds.actors .reviewing where
  actors := {
    make := fun answered => congrArg Prod.snd answered
    permits := fun answered => congrArg Prod.snd answered
    perform := fun answered => congrArg Prod.snd answered
    sleep := And.right
    made := fun answered => congrArg Prod.fst answered
    permitted := fun answered => congrArg Prod.fst answered
    performed := fun answered => ⟨_, congrArg Prod.fst answered, rfl⟩ }
  policy := rfl
  registered := by decide

theorem Deeds.total {σ : Type} (deeds : Deeds σ) : deeds.actors.Total where
  make _ _ := ⟨_, _, rfl⟩
  permits _ _ := ⟨_, _, rfl⟩
  perform _ _ := ⟨_, _, rfl⟩
  sleep _ _ := ⟨_, _, rfl, rfl⟩

end Workflow
