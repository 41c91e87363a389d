import Workflow.Proofs.Completion
import Workflow.Proofs.Steadiness

/-!
# What is stored when an action is used

A run saves its instance at every step that it comes to, before it executes the step, and changes
nothing about it until the step is processed.  So while actions leave the store alone, at every
attempt of every step the store holds the instance that the run works on: it is running, stands at
the step, and has the progress of all steps that the run processed before.
-/

namespace Workflow

open Proc

/-! ## Attempts and what was asked before them -/

/-- The invocation of an attempt of a step. -/
def Request.attempt? : Request → Option Invocation
  | .permits invocation | .perform invocation =>
    match invocation.purpose with
    | .attempt _ => some invocation
    | .compensation => none
  | _ => none

/-- Every attempt among some exchanges is as given, by what was asked before it. -/
def AttemptsAs (given : List Request.Answered → Invocation → Prop) : List Request.Answered → Prop
  | [] => True
  | exchange :: rest =>
    (∀ invocation, exchange.request.attempt? = some invocation → given [] invocation) ∧
      AttemptsAs (fun before => given (exchange :: before)) rest

section Exchanges

variable {given weaker : List Request.Answered → Invocation → Prop}
variable {exchanges others before after : List Request.Answered}

@[simp] theorem attemptsAs_append :
    AttemptsAs given (exchanges ++ others) ↔
      AttemptsAs given exchanges ∧
        AttemptsAs (fun before => given (exchanges ++ before)) others := by
  induction exchanges generalizing given with
  | nil => simp [AttemptsAs]
  | cons exchange rest ih => simp [AttemptsAs, ih, and_assoc]

theorem AttemptsAs.mono (attempts : AttemptsAs given exchanges)
    (weakens : ∀ before invocation, given before invocation → weaker before invocation) :
    AttemptsAs weaker exchanges := by
  induction exchanges generalizing given weaker with
  | nil => trivial
  | cons exchange rest ih =>
      refine ⟨fun invocation attempt => weakens _ _ (attempts.1 invocation attempt), ?_⟩
      exact ih attempts.2 fun before => weakens (exchange :: before)

/-- What is given of an attempt that was made. -/
theorem AttemptsAs.at {exchange : Request.Answered} {invocation : Invocation}
    (attempts : AttemptsAs given (before ++ exchange :: after))
    (attempt : exchange.request.attempt? = some invocation) : given before invocation := by
  have here := (attemptsAs_append.mp attempts).2.1 invocation attempt
  simpa using here

theorem attempted?_of_attempt? {exchange : Request.Answered} {invocation : Invocation}
    (attempt : exchange.request.attempt? = some invocation) :
    exchange.attempted? = some invocation.context.stepId := by
  rcases exchange with ⟨request, answer⟩
  cases request with
  | permits made | perform made =>
      simp only [Request.attempt?] at attempt
      split at attempt
      · next purpose =>
          cases attempt
          simp [Request.Answered.attempted?, Invocation.attempted?, purpose]
      · cases attempt
  | _ => cases attempt

theorem AttemptsAs.of_untried (untried : AttemptsOnly (fun _ => False) exchanges) :
    AttemptsAs given exchanges := by
  induction exchanges generalizing given with
  | nil => trivial
  | cons exchange rest ih =>
      rcases attemptsOnly_cons.mp untried with ⟨first, others⟩
      refine ⟨fun invocation attempt => ?_, ih others⟩
      exact (first _ (attempted?_of_attempt? attempt)).elim

/-- Before each attempt of an execution there is nothing but what an execution asks. -/
theorem AttemptsAs.executing {made : Invocation → Prop} (executing : Executing exchanges)
    (attempts : AttemptsAs (fun _ => made) exchanges) :
    AttemptsAs (fun before invocation => Executing before ∧ made invocation) exchanges := by
  induction exchanges with
  | nil => trivial
  | cons exchange rest ih =>
      rcases executing_cons.mp executing with ⟨first, others⟩
      refine ⟨fun invocation attempt => ⟨executing_nil, attempts.1 invocation attempt⟩, ?_⟩
      refine (ih others attempts.2).mono fun before invocation earlier => ?_
      exact ⟨executing_cons.mpr ⟨first, earlier.1⟩, earlier.2⟩

end Exchanges

/-! ## The attempts of a step -/

section Executions

variable {σ : Type} {world : World σ} {runner : Runner} {inst : Instance} {step : Step}
variable {state final : σ} {exchanges : List Request.Answered} {action : String}
variable {context : Context}

theorem attemptOnce_contexts {attempt : Nat} {outcome : Except StepError ActionResult}
    (ended : Ends world (attemptOnce step action context attempt) state exchanges outcome final) :
    AttemptsAs (fun _ invocation => invocation.context = context) exchanges := by
  have same : ∀ invocation : Invocation,
      some (⟨.attempt attempt, action, context⟩ : Invocation) = some invocation →
        invocation.context = context := by
    rintro invocation ⟨⟩
    rfl
  rcases ends_ask.mp ended with ⟨permits, _, rest, rfl, _, ended⟩
  refine ⟨same, ?_⟩
  match permits with
  | .error _ | .ok false =>
      rw [(ends_done.mp ended).1]
      trivial
  | .ok true =>
      rcases ends_ask.mp ended with ⟨answer, _, rest, rfl, _, ended⟩
      have whole : rest = [] := by
        match answer with
        | .error _ | .ok _ => exact (ends_done.mp ended).1
      subst whole
      exact ⟨same, trivial⟩

theorem Runner.Tries.contexts {fuel attempt : Nat} {ending : AttemptsEnd}
    (tries : runner.Tries world inst step action context fuel attempt state exchanges ending
      final) :
    AttemptsAs (fun _ invocation => invocation.context = context) exchanges := by
  induction tries with
  | interrupted tries looks | unlooked tries looks | succeeded tries looks =>
      exact attemptsAs_append.mpr
        ⟨attemptOnce_contexts tries, .of_untried (idle_checkInterrupted looks).untried⟩
  | failed tries looks tells =>
      refine attemptsAs_append.mpr ⟨attemptOnce_contexts tries, .of_untried (Idle.untried ?_)⟩
      simp [idle_checkInterrupted looks, idle_emit tells]
  | unwaited tries looks tells _ logs waits =>
      refine attemptsAs_append.mpr ⟨attemptOnce_contexts tries, .of_untried (Idle.untried ?_)⟩
      simp [idle_checkInterrupted looks, idle_emit tells, idle_log logs, idle_wait waits]
  | @again _ _ _ _ _ _ _ _ _ tried looked told logged waited rest _ _ _ tries looks tells _ logs
      waits _ ih =>
      have idle : Idle (looked ++ (told ++ (logged ++ waited))) := by
        simp [idle_checkInterrupted looks, idle_emit tells, idle_log logs, idle_wait waits]
      have onward := attemptsAs_append.mpr ⟨attemptOnce_contexts tries, attemptsAs_append.mpr
        ⟨.of_untried idle.untried, ih⟩⟩
      simpa using onward

/-- Every attempt of a step is made with the instance that the step is executed for. -/
theorem executeStep_contexts {ending : StepEnd} (active : inst.state.isTerminal = false)
    (ended : Ends world (runner.executeStep inst step) state exchanges ending final) :
    AttemptsAs (fun before invocation => Executing before ∧
      ∃ config, invocation.context = runner.context inst step config) exchanges := by
  refine .executing (executeStep_ends active ended).1 ?_
  rcases executeStep_tries active ended with
    untried | ⟨_, _, _, _, config, _, _, _, _, rfl, opens, closes, tries⟩
  · exact .of_untried untried
  · exact attemptsAs_append.mpr ⟨.of_untried opens, attemptsAs_append.mpr
      ⟨tries.contexts.mono fun _ _ same => ⟨config, same⟩, .of_untried closes⟩⟩

end Executions

/-! ## The route up to an attempt -/

/-- An attempt is made for the step that some passages come to: with the progress of the passages
the instance was saved at the step, nothing was saved since, and the action is given just this
instance. -/
structure Runner.Poised (runner : Runner) (starts : String → Prop) (inst : Instance)
    (passages : List Passage) (onward : List Request.Answered) (held : Instance)
    (invocation : Invocation) : Prop where
  route : runner.Route inst.definition passages
  heads : ∀ first ∈ passages.head?, starts first.step.id ∧ inst.SameProgress first.before
  comes : ComesTo starts passages invocation.context.stepId
  reaches : (inst.reached passages).SameProgress held
  id_eq : held.id = inst.id
  running : held.state = .running
  current : held.currentStep = .text invocation.context.stepId
  given : invocation.context.inst = some held ∧ invocation.context.data = held.data
  saved : ∃ looked quiet, onward = looked ++ ⟨.save held, .ok ()⟩ :: quiet ∧ Executing looked ∧
    Executing quiet

/-- What was asked before an attempt: passages, and what leads from them to the attempt. -/
def Runner.PoisedAfter (runner : Runner) (starts : String → Prop) (inst : Instance)
    (before : List Request.Answered) (invocation : Invocation) : Prop :=
  ∃ passages onward held, before = passages.flatMap Passage.exchanges ++ onward ∧
    runner.Poised starts inst passages onward held invocation

section Attempts

variable {σ : Type} {world : World σ} {runner : Runner} {inst other : Instance} {step : Step}
variable {state final : σ} {exchanges : List Request.Answered} {key : String}

/-- A run makes attempts for a step with the instance that it saved when it came to the step. -/
theorem visit_poised {entry course : List Request.Answered} {middle : σ} {ending : StepEnd}
    (running : inst.state = .running) (keyed : inst.definition.Keyed)
    (enters : runner.Enters world inst key step state entry middle)
    (executes : Ends world (runner.executeStep (runner.moved inst key) step) middle course ending
      final) :
    AttemptsAs (runner.PoisedAfter (· = key) inst) (entry ++ course) := by
  have active : (runner.moved inst key).state.isTerminal = false := active_of_running running
  refine attemptsAs_append.mpr ⟨.of_untried enters.untried, ?_⟩
  refine (executeStep_contexts active executes).mono ?_
  rintro before invocation ⟨executing, config, context⟩
  cases enters with
  | @saved looked _ _ found looks _ =>
      obtain rfl := keyed.id_of_step? found
      refine ⟨[], _, runner.moved inst step.id, rfl, ⟨by simp, .nil⟩, by simp, ?_,
        same_moved runner inst step.id, rfl, running, ?_, ?_, ?_⟩
      · rw [context]
        rfl
      · rw [context]
        rfl
      · rw [context]
        exact ⟨rfl, rfl⟩
      · exact ⟨looked, before, by simp, (idle_checkInterrupted looks).executing, executing⟩

/-- An attempt that comes after a passage has the passage in its route. -/
theorem Runner.PoisedAfter.cons {passage : Passage} {starts : String → Prop} {next : String}
    {before : List Request.Answered} {invocation : Invocation}
    (sound : passage.Sound runner inst.definition) (begins : starts passage.step.id)
    (begun : inst.SameProgress passage.before)
    (leads : passage.after.Leads passage.step.id (some next))
    (same : passage.after.SameProgress other) (continues : inst.Continues other)
    (poised : runner.PoisedAfter (· = next) other before invocation) :
    runner.PoisedAfter starts inst (passage.exchanges ++ before) invocation := by
  rcases poised with ⟨passages, onward, held, rfl, poised⟩
  have route : runner.Route inst.definition passages := continues.definition_eq ▸ poised.route
  refine ⟨passage :: passages, onward, held, by simp, route.cons sound ?_, ?_,
    poised.comes.cons leads, ?_, poised.id_eq.trans continues.id_eq, poised.running, poised.current,
    poised.given, poised.saved⟩
  · intro first member
    rcases poised.heads first member with ⟨rfl, progress⟩
    exact ⟨leads, same.trans progress⟩
  · simpa using ⟨begins, begun⟩
  · rw [Instance.reached_cons]
    exact same.reached.trans poised.reaches

theorem Runner.Halts.poised {remaining : Nat} {ending : StepsEnd} (running : inst.state = .running)
    (keyed : inst.definition.Keyed)
    (halts : runner.Halts world inst key state remaining exchanges ending final) :
    AttemptsAs (runner.PoisedAfter (· = key) inst) exchanges := by
  rcases halts.visits running with
    untried | ⟨_, _, _, _, _, _, _, rfl, enters, executes, closes⟩
  · exact .of_untried untried
  · exact attemptsAs_append.mpr ⟨visit_poised running keyed enters executes, .of_untried closes⟩

/-- Every attempt of a run is made for the step that its route comes to. -/
theorem drives_poised {remaining : Nat} {ending : StepsEnd} (running : inst.state = .running)
    (keyed : inst.definition.Keyed)
    (drives : runner.Drives world remaining inst key state exchanges ending final) :
    AttemptsAs (runner.PoisedAfter (· = key) inst) exchanges := by
  induction drives with
  | halts halts => exact halts.poised running keyed
  | @finishes _ inst after key step _ _ _ _ entry course last ending enters executes finishes =>
      rcases sound_passage running keyed enters executes savesOnly_nil with ⟨_, continues, _⟩
      have untried := finishes.untried (continues.state_eq.trans running)
      rw [← List.append_assoc]
      exact attemptsAs_append.mpr ⟨visit_poised running keyed enters executes, .of_untried untried⟩
  | @passes _ inst after key next step _ _ _ _ _ _ entry course choice rest _ enters executes
      chooses saved _ ih =>
      rcases passage_onward running keyed enters executes chooses with ⟨same, leads, goesOn, sound⟩
      have exits : AttemptsOnly (fun _ => False)
          (choice ++ [⟨.save (runner.moved after next), .ok ()⟩]) := by
        simp [(selectNext_ends chooses).1.untried, attempted?_save]
      have here := attemptsAs_append.mpr
        ⟨visit_poised running keyed enters executes, .of_untried exits⟩
      have onward := ih (goesOn.state_eq.trans running) (goesOn.definition_eq ▸ keyed)
      have whole := attemptsAs_append.mpr ⟨here, onward.mono fun before invocation poised => by
        have longer : runner.PoisedAfter (· = key) inst _ _ :=
          poised.cons sound same (same_moved runner inst key) leads (same_moved runner after next)
            goesOn
        rwa [Passage.exchanges, ← List.append_assoc] at longer⟩
      simpa using whole

end Attempts

/-! ## Courses under way -/

section Courses

variable {α σ : Type} {records : Records σ} {actors : Actors σ} {proc last : Proc α}
variable {state final : σ} {exchanges before after : List Request.Answered}

/-- Actions that may also do nothing at all. -/
def Actors.orIdle (actors : Actors σ) : Actors σ where
  make invocation state answer after :=
    actors.make invocation state answer after ∨ answer = .ok () ∧ after = state
  permits invocation state answer after :=
    actors.permits invocation state answer after ∨ answer = .ok false ∧ after = state
  perform invocation state answer after :=
    actors.perform invocation state answer after ∨ answer = .ok (.other .null) ∧ after = state
  sleep seconds state answer after :=
    actors.sleep seconds state answer after ∨ answer = .ok () ∧ after = state

theorem Actors.total_orIdle (actors : Actors σ) : actors.orIdle.Total where
  make _ _ := ⟨_, _, .inr ⟨rfl, rfl⟩⟩
  permits _ _ := ⟨_, _, .inr ⟨rfl, rfl⟩⟩
  perform _ _ := ⟨_, _, .inr ⟨rfl, rfl⟩⟩
  sleep _ _ := ⟨_, _, .inr ⟨rfl, rfl⟩⟩

/-- A course that stands before a request comes to some end if actions may do nothing. -/
theorem Proc.Path.exists_ends_orIdle {request : Request} {next : request.Answer → Proc α}
    (path : Path (records.world actors) proc state exchanges (.ask request next) final) :
    ∃ answer further value ending, Ends (records.world actors.orIdle) proc state
      (exchanges ++ ⟨request, answer⟩ :: further) value ending := by
  have wider : Path (records.world actors.orIdle) proc state exchanges (.ask request next)
      final := by
    refine path.mono fun request state answer after answered => ?_
    cases request with
    | make | permits | perform | sleep => exact .inl answered
    | contains | load | save | remove | list | draw | freshId | emit | log | http => exact answered
  rcases actors.total_orIdle.exists_ends (.ask request next) final with
    ⟨onward, value, ending, ended⟩
  rcases ends_ask.mp ended with ⟨answer, _, further, rfl, _, _⟩
  exact ⟨answer, further, value, ending, wider.append ended⟩

/-- While a step is executed the store stays as it is, if actions leave it alone. -/
theorem Executing.state_eq (executing : Executing exchanges) (still : actors.Still)
    (path : Path (records.world actors) proc state exchanges last final) : final = state := by
  induction path with
  | here => rfl
  | @ask request _ _ _ _ _ _ _ answered _ ih =>
      rcases executing_cons.mp executing with ⟨executes, later⟩
      rw [ih later]
      cases request with
      | make => exact still.make answered
      | permits => exact still.permits answered
      | perform => exact still.perform answered
      | sleep => exact still.sleep answered
      | contains | load => exact answered.2
      | list | draw | freshId | emit | log | http => exact answered
      | save | remove => cases executes

/-- What was saved before an execution is what the store holds during it. -/
theorem record?_of_saved {held : Instance} (executing : Executing after) (still : actors.Still)
    (path : Path (records.world actors) proc state (before ++ ⟨.save held, .ok ()⟩ :: after) last
      final) : records.record? final held.id = some held := by
  rcases path.of_append with ⟨middle, between, _, onward⟩
  cases onward with
  | ask saved rest =>
      rw [executing.state_eq still rest, saved.2]
      exact records.record?_save_self between held

end Courses

/-! ## Runs -/

section Runs

variable {σ : Type} {records : Records σ} {actors : Actors σ} {runner : Runner}
variable {inst other : Instance} {state final : σ} {exchanges : List Request.Answered}

/-- A run stands before an attempt as an instance with the same progress does. -/
theorem Runner.Poised.of_same {starts begins : String → Prop} {passages : List Passage}
    {onward : List Request.Answered} {held : Instance} {invocation : Invocation}
    (begun : ∀ key, starts key → begins key) (same : inst.SameProgress other)
    (sameId : other.id = inst.id) (sameDefinition : other.definition = inst.definition)
    (poised : runner.Poised starts other passages onward held invocation) :
    runner.Poised begins inst passages onward held invocation where
  route := sameDefinition ▸ poised.route
  heads first member := (poised.heads first member).imp (begun _) same.trans
  comes := poised.comes.mono begun
  reaches := same.reached.trans poised.reaches
  id_eq := poised.id_eq.trans sameId
  running := poised.running
  current := poised.current
  given := poised.given
  saved := poised.saved

/-- Every attempt of a run is made for the step that its route comes to, from where it began. -/
theorem run_poised {outcome : Except Failure Instance} (keyed : inst.definition.Keyed)
    (ended : Ends (records.world actors) (runner.run inst) state exchanges outcome final) :
    AttemptsAs (fun before invocation => ∃ opening driven, before = opening ++ driven ∧
      Opens runner inst opening ∧ runner.PoisedAfter inst.StartsAt inst driven invocation)
      exchanges := by
  cases active : inst.state.isActive with
  | false =>
      rw [(run_refused active ended).1]
      trivial
  | true =>
      rcases run_ends active ended with ⟨_, _, saved, _⟩ | ⟨opening, _, _, rfl, opens, drives⟩
      · cases saved.1
      have running := runner.begun_state inst
      refine attemptsAs_append.mpr ⟨.of_untried opens.untried, ?_⟩
      rcases drive_ends running drives with
        ⟨_, rfl, _⟩ | ⟨key, driven, closing, ending, _, starts, rfl, drives, concludes⟩
      · trivial
      have keyed : (runner.begun inst).definition.Keyed := by
        rwa [runner.begun_definition]
      have closes := conclude_untried_of_drives running keyed drives concludes
      rw [firstStep?_begun] at starts
      refine attemptsAs_append.mpr ⟨(drives_poised running keyed drives).mono ?_,
        .of_untried closes⟩
      rintro _ invocation ⟨passages, onward, held, rfl, poised⟩
      refine ⟨opening, _, rfl, opens, passages, onward, held, rfl, ?_⟩
      refine poised.of_same ?_ (same_begun runner inst) (runner.begun_id inst)
        (runner.begun_definition inst)
      rintro _ rfl
      exact startsAt_of_firstStep? starts

/-- Whenever a run attempts a step, the store holds just the instance that the action is given: it
is running, stands at the step that the route of the run came to, and has the progress of all steps
that the run processed before. -/
theorem run_persists_before_acting {start : σ} {request : Request}
    {next : request.Answer → Proc (Except Failure Instance)} {invocation : Invocation}
    (still : actors.Still) (keyed : inst.definition.Keyed)
    (path : Path (records.world actors) (runner.run inst) start exchanges (.ask request next) state)
    (attempt : request.attempt? = some invocation) :
    ∃ opening passages onward held,
      exchanges = opening ++ (passages.flatMap Passage.exchanges ++ onward) ∧
      Opens runner inst opening ∧
      runner.Poised inst.StartsAt inst passages onward held invocation ∧
      records.record? state inst.id = some held := by
  rcases path.exists_ends_orIdle with ⟨answer, further, outcome, ending, ended⟩
  rcases (run_poised keyed ended).at attempt with
    ⟨opening, _, rfl, opens, passages, onward, held, rfl, poised⟩
  refine ⟨opening, passages, onward, held, rfl, opens, poised, ?_⟩
  rcases poised.saved with ⟨looked, quiet, rfl, _, executing⟩
  rw [← List.append_assoc, ← List.append_assoc] at path
  rw [← poised.id_eq]
  exact record?_of_saved executing still path

end Runs

/-- When a small order comes to its last step, the store has it as it is then: the first step is
completed, and the review was skipped. -/
theorem run_persists_before_acting_reviewing :
    let order := Instance.fresh "w" .reviewing (Dict.ofFields [("total", .int 50)]) default
    let course := (Runner.plain.run order).courseTo
      (MemoryStore.records.serve Repertoire.succeeding.deeds) 20 .empty
    ∃ invocation next passages held, course.2.1 = .ask (.perform invocation) next ∧
      Runner.plain.Route .reviewing passages ∧ ComesTo order.StartsAt passages "step_3" ∧
      invocation.context.inst = some held ∧ course.2.2.find? "w" = some held ∧
      held.state = .running ∧ held.currentStep = .text "step_3" ∧
      held.completed = [.text "step_1"] ∧ held.skipped = [.text "review"] := by
  intro order course
  have path := path_courseTo (MemoryStore.records.world_serve Repertoire.succeeding.deeds) 20
    (Runner.plain.run order) .empty
  have stands : course.2.1.invocation?.map (fun made => (made.purpose, made.context.stepId)) =
      some (.attempt 1, "step_3") := by
    decide +kernel
  have marks : (course.2.2.find? "w").map (fun stored => (stored.completed, stored.skipped)) =
      some ([.text "step_1"], [.text "review"]) := by
    decide +kernel
  rcases Option.map_eq_some_iff.mp stands with ⟨invocation, performs, same⟩
  rcases Prod.mk.inj same with ⟨purpose, named⟩
  rcases of_invocation? performs with ⟨next, rest⟩
  rw [show course.2.1 = _ from rest] at path
  have attempt : (Request.perform invocation).attempt? = some invocation := by
    simp only [Request.attempt?, purpose]
  have keyed : order.definition.Keyed := by
    unfold Definition.Keyed
    decide
  rcases run_persists_before_acting prospers_reviewing.actors.toStill keyed path attempt with
    ⟨_, passages, _, held, _, _, poised, found⟩
  have found : course.2.2.find? "w" = some held := found
  have comes := poised.comes
  have current := poised.current
  rw [named] at comes current
  rw [found] at marks
  rcases Prod.mk.inj (Option.some.inj marks) with ⟨completed, skipped⟩
  exact ⟨invocation, next, passages, held, rest, poised.route, comes, poised.given.1, found,
    poised.running, current, completed, skipped⟩

end Workflow
