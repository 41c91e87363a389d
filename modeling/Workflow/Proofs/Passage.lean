import Workflow.Proofs.Resumption

/-!
# The loops of a run

A step is executed by one attempt after the other, and a run goes through one step after the other.
Each of the two loops is an inductive relation with a case for every way in which it goes on or
ends, and all courses of the loop are in it.  What is said about whole courses is proved by
induction on these relations.
-/

namespace Workflow

open Proc Number

/-! ## What is asked of whom -/

/-- Whether a request neither has to do with actions nor changes the store. -/
def Request.idles : Request → Bool
  | .load _ | .sleep _ | .draw | .emit _ | .log _ => true
  | _ => false

/-- Whether a request may be made while a step is executed. -/
def Request.executes : Request → Bool
  | .make invocation | .permits invocation | .perform invocation =>
    invocation.purpose ≠ .compensation
  | request => request.idles

/-- The use of an action that succeeded, with its result. -/
def Request.Answered.success? : Request.Answered → Option (Invocation × ActionResult)
  | ⟨.perform invocation, .ok (.result result)⟩ =>
    if result.succeeded then some (invocation, result) else none
  | _ => none

/-- No exchange has to do with actions, and none changes the store. -/
def Idle (exchanges : List Request.Answered) : Prop :=
  ∀ exchange ∈ exchanges, exchange.request.idles = true

/-- All exchanges may be part of the execution of a step. -/
def Executing (exchanges : List Request.Answered) : Prop :=
  ∀ exchange ∈ exchanges, exchange.request.executes = true

section Exchanges

variable {exchanges others : List Request.Answered}

@[simp] theorem idle_nil : Idle [] := by
  simp [Idle]

@[simp] theorem idle_append : Idle (exchanges ++ others) ↔ Idle exchanges ∧ Idle others :=
  List.forall_mem_append

@[simp] theorem idle_cons {exchange : Request.Answered} :
    Idle (exchange :: exchanges) ↔ exchange.request.idles = true ∧ Idle exchanges :=
  List.forall_mem_cons

@[simp] theorem executing_append :
    Executing (exchanges ++ others) ↔ Executing exchanges ∧ Executing others :=
  List.forall_mem_append

@[simp] theorem executing_cons {exchange : Request.Answered} :
    Executing (exchange :: exchanges) ↔
      exchange.request.executes = true ∧ Executing exchanges :=
  List.forall_mem_cons

@[simp] theorem executing_nil : Executing [] := by
  simp [Executing]

/-- An idle exchange may be part of anything, and tells nothing of an action. -/
theorem of_idles {exchange : Request.Answered} (idles : exchange.request.idles = true) :
    exchange.request.executes = true ∧ exchange.isUse = false ∧ exchange.success? = none := by
  rcases exchange with ⟨request, answer⟩
  cases request with
  | load | sleep | draw | emit | log => exact ⟨rfl, rfl, rfl⟩
  | contains | save | remove | list | make | permits | perform | freshId | http => cases idles

theorem Idle.executing (idle : Idle exchanges) : Executing exchanges :=
  fun exchange member => (of_idles (idle exchange member)).1

theorem Idle.filter_isUse (idle : Idle exchanges) : exchanges.filter (·.isUse) = [] := by
  refine List.filter_eq_nil_iff.mpr fun exchange member => ?_
  simp [(of_idles (idle exchange member)).2.1]

theorem Idle.filterMap_success (idle : Idle exchanges) :
    exchanges.filterMap (·.success?) = [] :=
  List.filterMap_eq_nil_iff.mpr fun exchange member => (of_idles (idle exchange member)).2.2

theorem Executing.filterMap_saved (executing : Executing exchanges) :
    exchanges.filterMap (·.saved?) = [] := by
  refine List.filterMap_eq_nil_iff.mpr fun exchange member => ?_
  have executes := executing exchange member
  rcases exchange with ⟨request, answer⟩
  cases request with
  | save => cases executes
  | _ => rfl

/-- Every instance that is saved is as given. -/
def SavesOnly (given : Instance → Prop) (exchanges : List Request.Answered) : Prop :=
  ∀ saved ∈ exchanges.filterMap (·.saved?), given saved

section Saves

variable {given : Instance → Prop}

@[simp] theorem savesOnly_nil : SavesOnly given [] := by
  simp [SavesOnly]

@[simp] theorem savesOnly_append :
    SavesOnly given (exchanges ++ others) ↔ SavesOnly given exchanges ∧ SavesOnly given others := by
  rw [SavesOnly, List.filterMap_append]
  exact List.forall_mem_append

@[simp] theorem savesOnly_save {saved : Instance} {kept : Except Failure Unit} :
    SavesOnly given (⟨.save saved, kept⟩ :: exchanges) ↔
      given saved ∧ SavesOnly given exchanges := by
  rw [SavesOnly, List.filterMap_cons_some (Request.Answered.saved?_save saved kept)]
  exact List.forall_mem_cons

theorem SavesOnly.mono {weaker : Instance → Prop} (saves : SavesOnly given exchanges)
    (weakens : ∀ saved, given saved → weaker saved) : SavesOnly weaker exchanges :=
  fun saved member => weakens saved (saves saved member)

theorem Executing.savesOnly (executing : Executing exchanges) : SavesOnly given exchanges := by
  rw [SavesOnly, executing.filterMap_saved]
  simp

theorem Idle.savesOnly (idle : Idle exchanges) : SavesOnly given exchanges :=
  idle.executing.savesOnly

end Saves

end Exchanges

variable {σ : Type} {world : World σ} {runner : Runner} {inst : Instance} {step : Step}
variable {state final : σ} {exchanges : List Request.Answered}

theorem idle_log {level : Level} {line : String} {value : Unit}
    (ended : Ends world (log level line) state exchanges value final) : Idle exchanges := by
  rcases ends_ask.mp ended with ⟨_, _, rest, rfl, _, ended⟩
  rcases ends_done.mp ended with ⟨rfl, _, _⟩
  simp [Request.idles]

theorem idle_emit {event : Event} {value : Unit}
    (ended : Ends world (emit event) state exchanges value final) : Idle exchanges := by
  rcases ends_ask.mp ended with ⟨delivered, _, rest, rfl, _, ended⟩
  cases delivered with
  | true =>
      rcases ends_done.mp ended with ⟨rfl, _, _⟩
      simp [Request.idles]
  | false =>
      have told : Idle rest := idle_log ended
      simp [Request.idles, told]

theorem idle_checkInterrupted {id : String} {interruption : Interruption}
    (ended : Ends world (checkInterrupted id) state exchanges interruption final) :
    Idle exchanges := by
  rw [checkInterrupted_eq] at ended
  rcases ends_ask.mp ended with ⟨_, _, rest, rfl, _, ended⟩
  rcases ends_done.mp ended with ⟨rfl, _, _⟩
  simp [Request.idles]

/-- Only an instance that was cancelled or paused stops a run. -/
theorem checkInterrupted_stopped {id : String} {stored : Instance}
    (ended : Ends world (checkInterrupted id) state exchanges (.stopped stored) final) :
    stored.state.interrupts = true := by
  rw [checkInterrupted_eq] at ended
  rcases ends_ask.mp ended with ⟨loaded, _, rest, rfl, _, ended⟩
  have looked := (ends_done.mp ended).2.1
  unfold Interruption.ofLoaded at looked
  split at looked
  · split at looked
    · cases looked
      assumption
    · cases looked
  · cases looked
  · cases looked

theorem idle_waitDrawn {wait : Binary64 → Except Fault Binary64} {value : Except Failure Unit}
    (ended : Ends world (waitDrawn wait) state exchanges value final) : Idle exchanges := by
  rcases ends_ask.mp ended with ⟨fraction, _, rest, rfl, _, ended⟩
  simp only [done_bind] at ended
  split at ended
  · rcases ends_done.mp ended with ⟨rfl, _, _⟩
    simp [Request.idles]
  · rcases ends_ask.mp ended with ⟨_, _, rest, rfl, _, ended⟩
    rcases ends_done.mp ended with ⟨rfl, _, _⟩
    simp [Request.idles]

theorem idle_wait {attempt : Nat} {value : Except Failure Unit}
    (ended : Ends world (runner.wait attempt) state exchanges value final) : Idle exchanges := by
  unfold Runner.wait at ended
  split at ended
  · exact idle_waitDrawn ended
  · rcases ends_done.mp ended with ⟨rfl, _, _⟩
    exact idle_nil

theorem selectNext_ends {key : String} {next : Except Failure (Option String)}
    (ended : Ends world (selectNext inst key) state exchanges next final) :
    Idle exchanges ∧ next = chosenStep inst key := by
  rcases selectNext_eq inst key with silent | ⟨line, told⟩
  · rw [silent] at ended
    rcases ends_done.mp ended with ⟨rfl, rfl, _⟩
    exact ⟨idle_nil, rfl⟩
  · rw [told] at ended
    rcases ends_bind.mp ended with ⟨logged, _, _, rest, rfl, logs, ended⟩
    rcases ends_done.mp ended with ⟨rfl, rfl, _⟩
    exact ⟨by simp [idle_log logs], rfl⟩

/-! ## Attempts -/

/-- An attempt asks its action alone, and its outcome is the result of the action if that is a
success. -/
theorem attemptOnce_ends {action : String} {context : Context} {attempt : Nat}
    {outcome : Except StepError ActionResult}
    (ended : Ends world (attemptOnce step action context attempt) state exchanges outcome final) :
    Executing exchanges ∧ exchanges.filterMap (·.success?) =
      outcome.toOption.toList.map (⟨.attempt attempt, action, context⟩, ·) := by
  rcases ends_ask.mp ended with ⟨permits, _, rest, rfl, _, ended⟩
  match permits with
  | .error failure =>
      rcases ends_done.mp ended with ⟨rfl, rfl, _⟩
      exact ⟨by simp [Request.executes], rfl⟩
  | .ok false =>
      rcases ends_done.mp ended with ⟨rfl, rfl, _⟩
      exact ⟨by simp [Request.executes], rfl⟩
  | .ok true =>
      rcases ends_ask.mp ended with ⟨answer, _, rest, rfl, _, ended⟩
      match answer with
      | .error failure =>
          rcases ends_done.mp ended with ⟨rfl, rfl, _⟩
          exact ⟨by simp [Request.executes], rfl⟩
      | .ok (.other value) =>
          rcases ends_done.mp ended with ⟨rfl, rfl, _⟩
          exact ⟨by simp [Request.executes], rfl⟩
      | .ok (.result result) =>
          rcases ends_done.mp ended with ⟨rfl, rfl, _⟩
          refine ⟨by simp [Request.executes], ?_⟩
          cases succeeded : result.succeeded <;>
            simp [Request.Answered.success?, Step.attemptResult, succeeded, Except.toOption]

/-- The attempts of a step from the given one on. -/
inductive Runner.Tries (runner : Runner) (world : World σ) (inst : Instance) (step : Step)
    (action : String) (context : Context) :
    (fuel attempt : Nat) → σ → List Request.Answered → AttemptsEnd → σ → Prop where
  /-- The instance was cancelled or paused by the end of the attempt. -/
  | interrupted {fuel attempt : Nat} {state middle final : σ} {tried looked : List Request.Answered}
      {outcome : Except StepError ActionResult} {stored : Instance} :
      Ends world (attemptOnce step action context attempt) state tried outcome middle →
      Ends world (checkInterrupted inst.id) middle looked (.stopped stored) final →
      Tries runner world inst step action context fuel attempt state (tried ++ looked)
        (.stopped stored) final
  /-- The store failed. -/
  | unlooked {fuel attempt : Nat} {state middle final : σ} {tried looked : List Request.Answered}
      {outcome : Except StepError ActionResult} {failure : Failure} :
      Ends world (attemptOnce step action context attempt) state tried outcome middle →
      Ends world (checkInterrupted inst.id) middle looked (.raised failure) final →
      Tries runner world inst step action context fuel attempt state (tried ++ looked)
        (.raised failure) final
  | succeeded {fuel attempt : Nat} {state middle final : σ} {tried looked : List Request.Answered}
      {result : ActionResult} :
      Ends world (attemptOnce step action context attempt) state tried (.ok result) middle →
      Ends world (checkInterrupted inst.id) middle looked .none final →
      Tries runner world inst step action context fuel attempt state (tried ++ looked)
        (.succeeded result) final
  /-- The attempt failed and was the last one. -/
  | failed {fuel attempt : Nat} {state middle between final : σ}
      {tried looked told : List Request.Answered} {error : StepError} :
      Ends world (attemptOnce step action context attempt) state tried (.error error) middle →
      Ends world (checkInterrupted inst.id) middle looked .none between →
      Ends world (emit (runner.event inst (.stepFailed step.id error.message attempt))) between told
        () final →
      fuel = 0 ∨ error.canRetry = false →
      Tries runner world inst step action context fuel attempt state (tried ++ (looked ++ told))
        (.failed error) final
  /-- There was to be another attempt, but the wait before it failed. -/
  | unwaited {fuel attempt : Nat} {state middle between further beyond final : σ}
      {tried looked told logged waited : List Request.Answered} {error : StepError} {line : String}
      {failure : Failure} :
      Ends world (attemptOnce step action context attempt) state tried (.error error) middle →
      Ends world (checkInterrupted inst.id) middle looked .none between →
      Ends world (emit (runner.event inst (.stepFailed step.id error.message attempt))) between told
        () further →
      error.canRetry = true →
      Ends world (log .warning line) further logged () beyond →
      Ends world (runner.wait attempt) beyond waited (.error failure) final →
      Tries runner world inst step action context (fuel + 1) attempt state
        (tried ++ (looked ++ (told ++ (logged ++ waited)))) (.raised failure) final
  /-- The attempt failed, and there was another one. -/
  | again {fuel attempt : Nat} {state middle between further beyond next final : σ}
      {tried looked told logged waited rest : List Request.Answered} {error : StepError}
      {line : String} {ending : AttemptsEnd} :
      Ends world (attemptOnce step action context attempt) state tried (.error error) middle →
      Ends world (checkInterrupted inst.id) middle looked .none between →
      Ends world (emit (runner.event inst (.stepFailed step.id error.message attempt))) between told
        () further →
      error.canRetry = true →
      Ends world (log .warning line) further logged () beyond →
      Ends world (runner.wait attempt) beyond waited (.ok ()) next →
      Tries runner world inst step action context fuel (attempt + 1) next rest ending final →
      Tries runner world inst step action context (fuel + 1) attempt state
        (tried ++ (looked ++ (told ++ (logged ++ (waited ++ rest))))) ending final

/-- Every course of the attempts is one of these. -/
theorem tries_of_ends {action : String} {context : Context} {fuel attempt : Nat}
    {ending : AttemptsEnd}
    (ended : Ends world (runner.attempts inst step action context fuel attempt) state exchanges
      ending final) :
    runner.Tries world inst step action context fuel attempt state exchanges ending final := by
  -- the fuel is looked at after an attempt, so the course is taken apart before its cases
  induction fuel using Nat.strongRecOn generalizing attempt state exchanges with
  | ind fuel ih =>
      unfold Runner.attempts at ended
      rcases ends_bind.mp ended with ⟨tried, outcome, _, _, rfl, tries, ended⟩
      cases outcome with
      | ok result =>
          rcases ends_bind.mp ended with ⟨looked, interruption, _, rest, rfl, looks, ended⟩
          cases interruption with
          | none =>
              rcases ends_done.mp ended with ⟨rfl, rfl, rfl⟩
              simpa only [List.append_nil] using .succeeded tries looks
          | stopped stored =>
              rcases ends_done.mp ended with ⟨rfl, rfl, rfl⟩
              simpa only [List.append_nil] using .interrupted tries looks
          | raised failure =>
              rcases ends_done.mp ended with ⟨rfl, rfl, rfl⟩
              simpa only [List.append_nil] using .unlooked tries looks
      | error error =>
          rcases ends_bind.mp ended with ⟨looked, interruption, _, rest, rfl, looks, ended⟩
          cases interruption with
          | stopped stored =>
              rcases ends_done.mp ended with ⟨rfl, rfl, rfl⟩
              simpa only [List.append_nil] using .interrupted tries looks
          | raised failure =>
              rcases ends_done.mp ended with ⟨rfl, rfl, rfl⟩
              simpa only [List.append_nil] using .unlooked tries looks
          | none =>
              rcases ends_bind.mp ended with ⟨told, _, _, rest, rfl, tells, ended⟩
              cases fuel with
              | zero =>
                  rcases ends_done.mp ended with ⟨rfl, rfl, rfl⟩
                  simpa only [List.append_nil] using .failed tries looks tells (.inl rfl)
              | succ fuel =>
                  cases retries : error.canRetry with
                  | false =>
                      simp only [retries, Bool.not_false, ↓reduceIte] at ended
                      rcases ends_done.mp ended with ⟨rfl, rfl, rfl⟩
                      simpa only [List.append_nil] using .failed tries looks tells (.inr retries)
                  | true =>
                      simp only [retries, Bool.not_true, Bool.false_eq_true, ↓reduceIte] at ended
                      rcases ends_bind.mp ended with ⟨logged, _, _, rest, rfl, logs, ended⟩
                      rcases ends_bind.mp ended with ⟨waited, value, _, rest, rfl, waits, ended⟩
                      cases value with
                      | error failure =>
                          rcases ends_done.mp ended with ⟨rfl, rfl, rfl⟩
                          simpa only [List.append_nil] using
                            .unwaited tries looks tells retries logs waits
                      | ok _ =>
                          have others := ih fuel (Nat.lt_succ_self fuel) ended
                          exact .again tries looks tells retries logs waits others

namespace Runner.Tries

variable {action : String} {context : Context} {fuel attempt : Nat} {ending : AttemptsEnd}

/-- Attempts ask nothing but what the execution of a step may ask. -/
theorem executing
    (tries : runner.Tries world inst step action context fuel attempt state exchanges ending
      final) :
    Executing exchanges := by
  induction tries with
  | interrupted tries looks | unlooked tries looks | succeeded tries looks =>
      simp [(attemptOnce_ends tries).1, (idle_checkInterrupted looks).executing]
  | failed tries looks tells =>
      simp [(attemptOnce_ends tries).1, (idle_checkInterrupted looks).executing,
        (idle_emit tells).executing]
  | unwaited tries looks tells _ logs waits =>
      simp [(attemptOnce_ends tries).1, (idle_checkInterrupted looks).executing,
        (idle_emit tells).executing, (idle_log logs).executing, (idle_wait waits).executing]
  | again tries looks tells _ logs waits _ ih =>
      simp [(attemptOnce_ends tries).1, (idle_checkInterrupted looks).executing,
        (idle_emit tells).executing, (idle_log logs).executing, (idle_wait waits).executing, ih]

/-- Attempts succeed with the result of the one that was a success. -/
theorem filterMap_success {result : ActionResult}
    (tries : runner.Tries world inst step action context fuel attempt state exchanges
      (.succeeded result) final) :
    ∃ number, exchanges.filterMap (·.success?) =
      [(⟨.attempt number, action, context⟩, result)] := by
  generalize succeeded : AttemptsEnd.succeeded result = ending at tries
  induction tries with
  | @succeeded _ number _ _ _ _ _ _ tries looks =>
      cases succeeded
      refine ⟨number, ?_⟩
      simp [(attemptOnce_ends tries).2, (idle_checkInterrupted looks).filterMap_success,
        Except.toOption]
  | again tries looks tells _ logs waits _ ih =>
      rcases ih succeeded with ⟨number, only⟩
      refine ⟨number, ?_⟩
      simp [(attemptOnce_ends tries).2, (idle_checkInterrupted looks).filterMap_success,
        (idle_emit tells).filterMap_success, (idle_log logs).filterMap_success,
        (idle_wait waits).filterMap_success, Except.toOption, only]
  | interrupted | unlooked | failed | unwaited => cases succeeded

/-- Only an instance that was cancelled or paused stops attempts. -/
theorem interrupts {stored : Instance}
    (tries : runner.Tries world inst step action context fuel attempt state exchanges
      (.stopped stored) final) :
    stored.state.interrupts = true := by
  generalize stopped : AttemptsEnd.stopped stored = ending at tries
  induction tries with
  | interrupted _ looks =>
      cases stopped
      exact checkInterrupted_stopped looks
  | again _ _ _ _ _ _ _ ih => exact ih stopped
  | unlooked | succeeded | failed | unwaited => cases stopped

end Runner.Tries

/-! ## Steps -/

/-- What was processed is as given, and what stopped a step was cancelled or paused. -/
def StepEnd.Leaves (given : Instance → Prop) : StepEnd → Prop
  | .processed inst => given inst
  | .stopped stored => stored.state.interrupts = true
  | .failed _ | .raised _ => True

/-- The instance after a step was left out. -/
def Runner.passedOver (runner : Runner) (inst : Instance) (step : Step) : Instance :=
  { inst with skipped := inst.skipped ++ [.text step.id], updatedAt := runner.now }

/-- A step is processed: left out since a precondition does not hold, or completed with a result. -/
inductive Runner.Processes (runner : Runner) (inst : Instance) (step : Step) :
    List Request.Answered → Instance → Prop where
  | skipped {condition : String} {course : List Request.Answered} :
      runner.settings.policy = .skip →
      Condition.firstFalse? .text (.dict inst.data) step.conditions = .ok (some condition) →
      Idle course →
      Processes runner inst step course (runner.passedOver inst step)
  /-- The step has no action. -/
  | gate {course : List Request.Answered} :
      Condition.firstFalse? .text (.dict inst.data) step.conditions = .ok none →
      step.action = none → Idle course →
      Processes runner inst step course (runner.completed inst step (.succeed []))
  | acted {action : String} {config : Dict} {number : Nat} {result : ActionResult}
      {course : List Request.Answered} :
      Condition.firstFalse? .text (.dict inst.data) step.conditions = .ok none →
      step.action = some action → renderParameters inst step = .ok config → Executing course →
      course.filterMap (·.success?) =
        [(⟨.attempt number, action, runner.context inst step config⟩, result)] →
      Processes runner inst step course (runner.completed inst step result)

theorem complete_ends {result : ActionResult} {ending : StepEnd}
    (active : inst.state.isTerminal = false)
    (ended : Ends world (runner.complete inst step result) state exchanges ending final) :
    Idle exchanges ∧ ending = .processed (runner.completed inst step result) := by
  rw [complete_eq active] at ended
  rcases ends_bind.mp ended with ⟨logged, _, _, rest, rfl, logs, ended⟩
  rcases ends_bind.mp ended with ⟨told, _, _, rest, rfl, tells, ended⟩
  rcases ends_done.mp ended with ⟨rfl, rfl, _⟩
  exact ⟨by simp [idle_log logs, idle_emit tells], rfl⟩

theorem act_ends {action : String} {config : Dict} {ending : StepEnd}
    (active : inst.state.isTerminal = false)
    (ended : Ends world (runner.act inst step action config) state exchanges ending final) :
    Executing exchanges ∧ ending.Leaves fun after =>
      ∃ number result, exchanges.filterMap (·.success?) =
          [(⟨.attempt number, action, runner.context inst step config⟩, result)] ∧
        after = runner.completed inst step result := by
  simp only [Runner.act] at ended
  split at ended
  · rcases ends_done.mp ended with ⟨rfl, rfl, _⟩
    exact ⟨executing_nil, trivial⟩
  · rcases ends_ask.mp ended with ⟨made, _, rest, rfl, _, ended⟩
    rw [done_bind] at ended
    cases made with
    | error failure =>
        split at ended
        · rcases ends_done.mp ended with ⟨rfl, rfl, _⟩
          exact ⟨by simp [Request.executes], trivial⟩
        · rcases ends_done.mp ended with ⟨rfl, rfl, _⟩
          exact ⟨by simp [Request.executes], trivial⟩
        · contradiction
    | ok _ =>
        rcases ends_bind.mp ended with ⟨attempted, outcome, _, rest, rfl, attempts, ended⟩
        have tries := tries_of_ends attempts
        cases outcome with
        | succeeded result =>
            rcases complete_ends active ended with ⟨idle, rfl⟩
            rcases tries.filterMap_success with ⟨number, only⟩
            refine ⟨by simp [Request.executes, tries.executing, idle.executing], number, result, ?_,
              rfl⟩
            rw [List.filterMap_cons_none rfl]
            simp [only, idle.filterMap_success]
        | stopped stored =>
            rcases ends_done.mp ended with ⟨rfl, rfl, _⟩
            exact ⟨by simp [Request.executes, tries.executing], tries.interrupts⟩
        | failed error | raised failure =>
            rcases ends_done.mp ended with ⟨rfl, rfl, _⟩
            exact ⟨by simp [Request.executes, tries.executing], trivial⟩

theorem declineStep_ends {condition : String} {ending : StepEnd}
    (active : inst.state.isTerminal = false)
    (ended : Ends world (runner.declineStep inst step condition) state exchanges ending final) :
    Idle exchanges ∧ ending.Leaves fun after =>
      runner.settings.policy = .skip ∧ after = runner.passedOver inst step := by
  have skips : inst.markSkipped (.text step.id) runner.now = .ok (runner.passedOver inst step) :=
    Instance.markSkipped_eq_ok.mpr ⟨active, rfl⟩
  simp only [Runner.declineStep] at ended
  cases policy : runner.settings.policy with
  | fail =>
      simp only [policy] at ended
      rcases ends_done.mp ended with ⟨rfl, rfl, _⟩
      exact ⟨idle_nil, trivial⟩
  | skip =>
      simp only [policy, skips] at ended
      rcases ends_bind.mp ended with ⟨logged, _, _, rest, rfl, logs, ended⟩
      rcases ends_done.mp ended with ⟨rfl, rfl, _⟩
      exact ⟨by simp [idle_log logs], rfl, rfl⟩

/-- A step is executed by what the execution of a step may ask; and if it is processed, it is left
out or completed. -/
theorem executeStep_ends {ending : StepEnd} (active : inst.state.isTerminal = false)
    (ended : Ends world (runner.executeStep inst step) state exchanges ending final) :
    Executing exchanges ∧ ending.Leaves (runner.Processes inst step exchanges) := by
  simp only [Runner.executeStep] at ended
  cases conditions : Condition.firstFalse? .text (.dict inst.data) step.conditions with
  | error failure =>
      simp only [conditions] at ended
      rcases ends_done.mp ended with ⟨rfl, rfl, _⟩
      exact ⟨executing_nil, trivial⟩
  | ok declined =>
      cases declined with
      | some condition =>
          simp only [conditions] at ended
          rcases declineStep_ends active ended with ⟨idle, leaves⟩
          refine ⟨idle.executing, ?_⟩
          cases ending with
          | processed after =>
              rcases leaves with ⟨policy, rfl⟩
              exact .skipped policy conditions idle
          | stopped stored => exact leaves
          | failed error | raised failure => trivial
      | none =>
          simp only [conditions] at ended
          rcases ends_bind.mp ended with ⟨logged, _, _, rest, rfl, logs, ended⟩
          have idle := idle_log logs
          cases renders : renderParameters inst step with
          | error failure =>
              simp only [renders] at ended
              rcases ends_done.mp ended with ⟨rfl, rfl, _⟩
              exact ⟨by simp [idle.executing], trivial⟩
          | ok config =>
              simp only [renders] at ended
              cases action : step.action with
              | none =>
                  simp only [action] at ended
                  rcases complete_ends active ended with ⟨silent, rfl⟩
                  refine ⟨by simp [idle.executing, silent.executing], ?_⟩
                  exact .gate conditions action (by simp [idle, silent])
              | some name =>
                  simp only [action] at ended
                  rcases act_ends active ended with ⟨executing, leaves⟩
                  refine ⟨by simp [idle.executing, executing], ?_⟩
                  cases ending with
                  | processed after =>
                      rcases leaves with ⟨number, result, only, rfl⟩
                      have whole : (logged ++ rest).filterMap (·.success?) =
                          [(⟨.attempt number, name, runner.context inst step config⟩, result)] := by
                        simp [idle.filterMap_success, only]
                      exact .acted conditions action renders
                        (by simp [idle.executing, executing]) whole
                  | stopped stored => exact leaves
                  | failed error | raised failure => trivial

/-! ## Runs -/

/-- A run goes on at a step: nothing stops it, and its instance is saved there. -/
inductive Runner.Enters (runner : Runner) (world : World σ) (inst : Instance) (key : String)
    (step : Step) (state : σ) : List Request.Answered → σ → Prop where
  | saved {looked : List Request.Answered} {middle final : σ} :
      inst.definition.step? key = some step →
      Ends world (checkInterrupted inst.id) state looked .none middle →
      world (.save (runner.moved inst key)) middle (.ok ()) final →
      Enters runner world inst key step state
        (looked ++ [⟨.save (runner.moved inst key), .ok ()⟩]) final

/-- A run ends at a step that it does not process. -/
inductive Runner.Halts (runner : Runner) (world : World σ) (inst : Instance) (key : String)
    (state : σ) : (remaining : Nat) → List Request.Answered → StepsEnd → σ → Prop where
  | interrupted {remaining : Nat} {looked : List Request.Answered} {stored : Instance} {final : σ} :
      Ends world (checkInterrupted inst.id) state looked (.stopped stored) final →
      Halts runner world inst key state remaining looked (.stopped stored) final
  | unlooked {remaining : Nat} {looked : List Request.Answered} {failure : Failure} {final : σ} :
      Ends world (checkInterrupted inst.id) state looked (.raised failure) final →
      Halts runner world inst key state remaining looked (.raised inst failure) final
  /-- There is no step under the key. -/
  | unknown {remaining : Nat} {looked : List Request.Answered} {final : σ} :
      Ends world (checkInterrupted inst.id) state looked .none final →
      inst.definition.step? key = none →
      Halts runner world inst key state remaining looked
        (.raised inst (.evaluation (.unknownStep key inst.definition.name))) final
  /-- The run has used up its steps. -/
  | exceeded {looked last : List Request.Answered} {step : Step} {ending : StepsEnd}
      {middle final : σ} :
      Ends world (checkInterrupted inst.id) state looked .none middle →
      inst.definition.step? key = some step →
      Ends world (runner.exceedLimit inst key) middle last ending final →
      Halts runner world inst key state 0 (looked ++ last) ending final
  | unentered {remaining : Nat} {looked : List Request.Answered} {step : Step} {failure : Failure}
      {middle final : σ} :
      Ends world (checkInterrupted inst.id) state looked .none middle →
      inst.definition.step? key = some step →
      world (.save (runner.moved inst key)) middle (.error failure) final →
      Halts runner world inst key state (remaining + 1)
        (looked ++ [⟨.save (runner.moved inst key), .error failure⟩])
        (.raised (runner.moved inst key) failure) final
  | failed {remaining : Nat} {entry course last : List Request.Answered} {step : Step}
      {error : StepError} {ending : FailingEnd} {middle between final : σ} :
      runner.Enters world inst key step state entry middle →
      Ends world (runner.executeStep (runner.moved inst key) step) middle course (.failed error)
        between →
      Ends world (runner.failStep (runner.moved inst key) step error) between last ending final →
      Halts runner world inst key state (remaining + 1) (entry ++ (course ++ last))
        ending.toStepsEnd final
  | stopped {remaining : Nat} {entry course : List Request.Answered} {step : Step}
      {stored : Instance} {middle final : σ} :
      runner.Enters world inst key step state entry middle →
      Ends world (runner.executeStep (runner.moved inst key) step) middle course (.stopped stored)
        final →
      Halts runner world inst key state (remaining + 1) (entry ++ course) (.stopped stored) final
  | raised {remaining : Nat} {entry course : List Request.Answered} {step : Step}
      {failure : Failure} {middle final : σ} :
      runner.Enters world inst key step state entry middle →
      Ends world (runner.executeStep (runner.moved inst key) step) middle course (.raised failure)
        final →
      Halts runner world inst key state (remaining + 1) (entry ++ course)
        (.raised (runner.moved inst key) failure) final

/-- A run ends after a step that it processed. -/
inductive Runner.Finishes (runner : Runner) (world : World σ) (inst : Instance) (key : String)
    (state : σ) : List Request.Answered → StepsEnd → σ → Prop where
  | unchosen {choice : List Request.Answered} {failure : Failure} {final : σ} :
      Ends world (selectNext inst key) state choice (.error failure) final →
      Finishes runner world inst key state choice (.raised inst failure) final
  /-- There is no next step. -/
  | completes {choice last : List Request.Answered} {ending : StepsEnd} {middle final : σ} :
      Ends world (selectNext inst key) state choice (.ok none) middle →
      Ends world (runner.completeRun inst) middle last ending final →
      Finishes runner world inst key state (choice ++ last) ending final
  | unleft {choice : List Request.Answered} {next : String} {failure : Failure} {middle final : σ} :
      Ends world (selectNext inst key) state choice (.ok (some next)) middle →
      world (.save (runner.moved inst next)) middle (.error failure) final →
      Finishes runner world inst key state
        (choice ++ [⟨.save (runner.moved inst next), .error failure⟩])
        (.raised (runner.moved inst next) failure) final

/-- A run goes through steps from the one under a key on. -/
inductive Runner.Drives (runner : Runner) (world : World σ) :
    (remaining : Nat) → Instance → (key : String) → σ → List Request.Answered → StepsEnd → σ →
      Prop where
  | halts {remaining : Nat} {inst : Instance} {key : String} {state final : σ}
      {last : List Request.Answered} {ending : StepsEnd} :
      runner.Halts world inst key state remaining last ending final →
      Drives runner world remaining inst key state last ending final
  | finishes {remaining : Nat} {inst after : Instance} {key : String} {step : Step}
      {state middle between final : σ} {entry course last : List Request.Answered}
      {ending : StepsEnd} :
      runner.Enters world inst key step state entry middle →
      Ends world (runner.executeStep (runner.moved inst key) step) middle course
        (.processed after) between →
      runner.Finishes world after key between last ending final →
      Drives runner world (remaining + 1) inst key state (entry ++ (course ++ last)) ending final
  | passes {remaining : Nat} {inst after : Instance} {key next : String} {step : Step}
      {state middle between further beyond final : σ}
      {entry course choice rest : List Request.Answered} {ending : StepsEnd} :
      runner.Enters world inst key step state entry middle →
      Ends world (runner.executeStep (runner.moved inst key) step) middle course
        (.processed after) between →
      Ends world (selectNext after key) between choice (.ok (some next)) further →
      world (.save (runner.moved after next)) further (.ok ()) beyond →
      Drives runner world remaining (runner.moved after next) next beyond rest ending final →
      Drives runner world (remaining + 1) inst key state
        (entry ++ (course ++ (choice ++ ⟨.save (runner.moved after next), .ok ()⟩ :: rest))) ending
        final

theorem Instance.Continues.trans {inst after last : Instance} (first : inst.Continues after)
    (second : after.Continues last) : inst.Continues last :=
  ⟨second.id_eq.trans first.id_eq, second.definition_eq.trans first.definition_eq,
    second.state_eq.trans first.state_eq, second.failures_eq.trans first.failures_eq⟩

/-- What is processed goes on running. -/
theorem Runner.Processes.continues {course : List Request.Answered} {after : Instance}
    (processes : runner.Processes inst step course after) : inst.Continues after := by
  cases processes with
  | skipped | gate | acted => exact ⟨rfl, rfl, rfl, rfl⟩

/-- After a step was entered a run halts at it, or finishes after it, or goes on to another one. -/
theorem visit_drives {remaining : Nat} {key : String} {entry course : List Request.Answered}
    {middle : σ} {ending : StepsEnd}
    (others : ∀ fewer < remaining + 1, ∀ {inst : Instance} {state : σ}
      {exchanges : List Request.Answered} {key : String}, inst.state = .running →
      Ends world (runner.steps fewer inst key) state exchanges ending final →
      runner.Drives world fewer inst key state exchanges ending final)
    (running : inst.state = .running)
    (enters : runner.Enters world inst key step state entry middle)
    (ended : Ends world (runner.visit remaining (runner.moved inst key) key step) middle course
      ending final) :
    runner.Drives world (remaining + 1) inst key state (entry ++ course) ending final := by
  have active : (runner.moved inst key).state.isTerminal = false := active_of_running running
  rcases ends_bind.mp ended with ⟨executed, outcome, _, rest, rfl, executes, ended⟩
  cases outcome with
  | failed error =>
      rcases ends_bind.mp ended with ⟨last, outcome, _, rest, rfl, fails, ended⟩
      rcases ends_done.mp ended with ⟨rfl, rfl, rfl⟩
      simpa only [List.append_nil] using .halts (.failed enters executes fails)
  | stopped stored =>
      rcases ends_done.mp ended with ⟨rfl, rfl, rfl⟩
      simpa only [List.append_nil] using .halts (.stopped enters executes)
  | raised failure =>
      rcases ends_done.mp ended with ⟨rfl, rfl, rfl⟩
      simpa only [List.append_nil] using .halts (.raised enters executes)
  | processed after =>
      have processes : runner.Processes _ step executed after :=
        (executeStep_ends active executes).2
      have continued : after.state = .running := processes.continues.state_eq.trans running
      rcases ends_bind.mp ended with ⟨choice, next, _, rest, rfl, chooses, ended⟩
      cases next with
      | error failure =>
          rcases ends_done.mp ended with ⟨rfl, rfl, rfl⟩
          simpa only [List.append_nil] using .finishes enters executes (.unchosen chooses)
      | ok next =>
          cases next with
          | none => exact .finishes enters executes (.completes chooses ended)
          | some next =>
              simp only [Runner.leave, Runner.moveTo, Runner.setCurrentStep_running continued]
                at ended
              rcases ends_ask.mp ended with ⟨kept, _, rest, rfl, saved, ended⟩
              cases kept with
              | error failure =>
                  rcases ends_done.mp ended with ⟨rfl, rfl, rfl⟩
                  exact .finishes enters executes (.unleft chooses saved)
              | ok _ =>
                  have moved : (runner.moved after next).state = .running := continued
                  have onward := others remaining (Nat.lt_succ_self remaining) moved ended
                  exact .passes enters executes chooses saved onward

/-- Every course of the steps of a running instance is one of these. -/
theorem drives_of_ends {remaining : Nat} {key : String} {ending : StepsEnd}
    (running : inst.state = .running)
    (ended : Ends world (runner.steps remaining inst key) state exchanges ending final) :
    runner.Drives world remaining inst key state exchanges ending final := by
  induction remaining using Nat.strongRecOn generalizing inst key state exchanges with
  | ind remaining ih =>
      rw [Runner.steps.eq_def] at ended
      rcases ends_bind.mp ended with ⟨looked, interruption, _, rest, rfl, looks, ended⟩
      cases interruption with
      | stopped stored =>
          rcases ends_done.mp ended with ⟨rfl, rfl, rfl⟩
          simpa only [List.append_nil] using .halts (.interrupted looks)
      | raised failure =>
          rcases ends_done.mp ended with ⟨rfl, rfl, rfl⟩
          simpa only [List.append_nil] using .halts (.unlooked looks)
      | none =>
          cases found : inst.definition.step? key with
          | none =>
              simp only [found] at ended
              rcases ends_done.mp ended with ⟨rfl, rfl, rfl⟩
              simpa only [List.append_nil] using .halts (.unknown looks found)
          | some step =>
              simp only [found] at ended
              cases remaining with
              | zero => exact .halts (.exceeded looks found ended)
              | succ remaining =>
                  simp only [Runner.moveTo, Runner.setCurrentStep_running running] at ended
                  rcases ends_ask.mp ended with ⟨kept, _, rest, rfl, saved, ended⟩
                  cases kept with
                  | error failure =>
                      rcases ends_done.mp ended with ⟨rfl, rfl, rfl⟩
                      exact .halts (.unentered looks found saved)
                  | ok _ =>
                      have enters := Runner.Enters.saved found looks saved
                      have visited : Ends world (runner.visit remaining (runner.moved inst key) key
                        step) _ rest ending final := ended
                      simpa using visit_drives ih running enters visited

/-! ## How runs end -/

/-- The instance as a run saves it when it fails. -/
def Runner.failed (runner : Runner) (inst : Instance) (message : String) : Instance :=
  { inst with state := .failed, updatedAt := runner.now, errorMessage := .text message }

/-- The instance as a run saves it when no step is left. -/
def Runner.finished (runner : Runner) (inst : Instance) : Instance :=
  { inst with state := .completed, updatedAt := runner.now }

/-- How a run ends that saves its instance as failed. -/
def Runner.afterFailing (runner : Runner) (inst : Instance) (message : String) :
    Except Failure Unit → FailingEnd
  | .ok _ => .failed (runner.failed inst message)
  | .error failure => .raised (runner.failed inst message) failure

theorem finalizeFailure_ends {message : String} {context : Dict} {ending : FailingEnd}
    (running : inst.state = .running)
    (ended : Ends world (runner.finalizeFailure inst message context) state exchanges ending
      final) :
    ∃ kept middle told, exchanges = ⟨.save (runner.failed inst message), kept⟩ :: told ∧
      world (.save (runner.failed inst message)) state kept middle ∧ Idle told ∧
      (kept = .ok () → Ends world (emit (runner.event (runner.failed inst message)
        (.failed message context))) middle told () final) ∧
      ending = runner.afterFailing inst message kept := by
  have fails : inst.fail (.text message) runner.now = .ok (runner.failed inst message) :=
    Instance.fail_eq_ok.mpr ⟨by rw [running]; rfl, rfl⟩
  simp only [Runner.finalizeFailure, fails] at ended
  rcases ends_ask.mp ended with ⟨kept, middle, rest, rfl, saved, ended⟩
  rw [done_bind] at ended
  refine ⟨kept, middle, rest, rfl, saved, ?_⟩
  cases kept with
  | error failure =>
      rcases ends_done.mp ended with ⟨rfl, rfl, rfl⟩
      exact ⟨idle_nil, by rintro ⟨⟩, rfl⟩
  | ok _ =>
      rcases ends_bind.mp ended with ⟨told, _, _, rest, rfl, tells, ended⟩
      rcases ends_done.mp ended with ⟨rfl, rfl, rfl⟩
      rw [List.append_nil]
      exact ⟨idle_emit tells, fun _ => tells, rfl⟩

/-- How a run ends that saves its instance as completed. -/
def Runner.afterFinishing (runner : Runner) (inst : Instance) : Except Failure Unit → StepsEnd
  | .ok _ => .finished (runner.finished inst)
  | .error failure => .raised (runner.finished inst) failure

theorem completeRun_ends {ending : StepsEnd} (running : inst.state = .running)
    (ended : Ends world (runner.completeRun inst) state exchanges ending final) :
    ∃ kept middle told, exchanges = ⟨.save (runner.finished inst), kept⟩ :: told ∧
      world (.save (runner.finished inst)) state kept middle ∧ Idle told ∧
      ending = runner.afterFinishing inst kept := by
  have completes : inst.transitionTo .completed runner.now = .ok (runner.finished inst) :=
    Instance.transitionTo_eq_ok.mpr ⟨by rw [running]; rfl, rfl⟩
  simp only [Runner.completeRun, completes] at ended
  rcases ends_ask.mp ended with ⟨kept, middle, rest, rfl, saved, ended⟩
  rw [done_bind] at ended
  refine ⟨kept, middle, rest, rfl, saved, ?_⟩
  cases kept with
  | error failure =>
      rcases ends_done.mp ended with ⟨rfl, rfl, rfl⟩
      exact ⟨idle_nil, rfl⟩
  | ok _ =>
      rcases ends_bind.mp ended with ⟨logged, _, _, rest, rfl, logs, ended⟩
      rcases ends_bind.mp ended with ⟨told, _, _, rest, rfl, tells, ended⟩
      rcases ends_done.mp ended with ⟨rfl, rfl, rfl⟩
      exact ⟨by simp [idle_log logs, idle_emit tells], rfl⟩

theorem exceedLimit_ends {key : String} {ending : StepsEnd} (running : inst.state = .running)
    (ended : Ends world (runner.exceedLimit inst key) state exchanges ending final) :
    ∃ logged kept between middle told, Idle logged ∧ Idle told ∧
      let message := (StepError.stepLimit key runner.settings.maxSteps).message
      exchanges = logged ++ ⟨.save (runner.failed inst message), kept⟩ :: told ∧
      world (.save (runner.failed inst message)) between kept middle ∧
      ending = (runner.afterFailing inst message kept).toStepsEnd := by
  rcases ends_bind.mp ended with ⟨logged, _, between, rest, rfl, logs, ended⟩
  rcases ends_bind.mp ended with ⟨last, outcome, _, rest, rfl, fails, ended⟩
  rcases ends_done.mp ended with ⟨rfl, rfl, rfl⟩
  rcases finalizeFailure_ends running fails with ⟨kept, middle, told, rfl, saved, idle, _, rfl⟩
  exact ⟨logged, kept, between, middle, told, idle_log logs, idle, by simp, saved, rfl⟩

/-- The outcome of a run that a failure got in the way of, once its instance was to be saved as
failed. -/
def afterAborting (failure : Failure) : Except Failure Unit → Except Failure Instance
  | .ok _ => .error failure
  | .error other => .error other

/-- A run that a failure got in the way of saves its instance as failed. -/
theorem conclude_raised_ends {id : String} {failure : Failure} {outcome : Except Failure Instance}
    (running : inst.state = .running)
    (ended : Ends world (runner.conclude id (.raised inst failure)) state exchanges outcome final) :
    ∃ logged kept between middle told, Idle logged ∧ Idle told ∧
      exchanges = logged ++ ⟨.save (runner.failed inst failure.abortMessage), kept⟩ :: told ∧
      world (.save (runner.failed inst failure.abortMessage)) between kept middle ∧
      (kept = .ok () → Ends world (emit (runner.event (runner.failed inst failure.abortMessage)
        (.failed failure.abortMessage []))) middle told () final) ∧
      outcome = afterAborting failure kept := by
  rcases conclude_raised_eq runner id inst failure with ⟨line, aborts⟩
  rw [aborts] at ended
  rcases ends_bind.mp ended with ⟨logged, _, between, rest, rfl, logs, ended⟩
  simp only [Runner.abort, active_of_running running, Bool.false_eq_true, ↓reduceIte] at ended
  rcases ends_bind.mp ended with ⟨last, ending, _, rest, rfl, fails, ended⟩
  rcases finalizeFailure_ends running fails with ⟨kept, middle, told, rfl, saved, idle, tells, rfl⟩
  refine ⟨logged, kept, between, middle, told, idle_log logs, idle, ?_⟩
  cases kept with
  | error other =>
      rcases ends_done.mp ended with ⟨rfl, rfl, rfl⟩
      exact ⟨by simp, saved, by rintro ⟨⟩, rfl⟩
  | ok _ =>
      rcases ends_done.mp ended with ⟨rfl, rfl, rfl⟩
      exact ⟨by simp, saved, tells, rfl⟩

theorem conclude_stopped_ends {id : String} {stored : Instance} {outcome : Except Failure Instance}
    (ended : Ends world (runner.conclude id (.stopped stored)) state exchanges outcome final) :
    Idle exchanges ∧ outcome = .ok stored := by
  rcases ends_bind.mp ended with ⟨logged, _, _, rest, rfl, logs, ended⟩
  rcases ends_done.mp ended with ⟨rfl, rfl, rfl⟩
  exact ⟨by simp [idle_log logs], rfl⟩

/-- The instance that a run works on once it has begun. -/
def Runner.begun (runner : Runner) (inst : Instance) : Instance :=
  if inst.state = .running then inst else runner.started inst

@[simp] theorem Runner.begun_state (runner : Runner) (inst : Instance) :
    (runner.begun inst).state = .running := by
  unfold begun
  split
  · assumption
  · rfl

@[simp] theorem Runner.begun_id (runner : Runner) (inst : Instance) :
    (runner.begun inst).id = inst.id := by
  unfold begun
  split <;> rfl

@[simp] theorem Runner.begun_definition (runner : Runner) (inst : Instance) :
    (runner.begun inst).definition = inst.definition := by
  unfold begun
  split <;> rfl

@[simp] theorem Runner.begun_failures (runner : Runner) (inst : Instance) :
    (runner.begun inst).failures = inst.failures := by
  unfold begun
  split <;> rfl

/-- A run that begins saves its instance unless it is running already. -/
def Opens (runner : Runner) (inst : Instance) (opening : List Request.Answered) : Prop :=
  inst.state = .running ∧ opening = [] ∨ opening = [⟨.save (runner.begun inst), .ok ()⟩]

theorem Opens.savesOnly {given : Instance → Prop} {opening : List Request.Answered}
    (opens : Opens runner inst opening) (begun : given (runner.begun inst)) :
    SavesOnly given opening := by
  rcases opens with ⟨_, rfl⟩ | rfl
  · exact savesOnly_nil
  · exact savesOnly_save.mpr ⟨begun, savesOnly_nil⟩

/-- The run of an instance that has ended asks for nothing and is refused. -/
theorem run_refused {outcome : Except Failure Instance} (inactive : inst.state.isActive = false)
    (ended : Ends world (runner.run inst) state exchanges outcome final) :
    exchanges = [] ∧ ∃ failure, outcome = .error failure := by
  simp only [Runner.run, State.isTerminal, inactive, Bool.not_false, ↓reduceIte] at ended
  rcases ends_done.mp ended with ⟨rfl, rfl, _⟩
  exact ⟨rfl, _, rfl⟩

/-- Every course of the run of an instance that has not ended: it fails to begin, or it begins and
goes on. -/
theorem run_ends {outcome : Except Failure Instance} (active : inst.state.isActive = true)
    (ended : Ends world (runner.run inst) state exchanges outcome final) :
    (∃ failure, exchanges = [⟨.save (runner.begun inst), .error failure⟩] ∧
      world (.save (runner.begun inst)) state (.error failure) final ∧ outcome = .error failure) ∨
    ∃ opening driven middle, exchanges = opening ++ driven ∧ Opens runner inst opening ∧
      Ends world (runner.drive (runner.begun inst)) middle driven outcome final := by
  simp only [Runner.run, State.isTerminal, active, Bool.not_true, Bool.false_eq_true,
    ↓reduceIte] at ended
  by_cases running : inst.state = .running
  · have begun : runner.begun inst = inst := if_pos running
    rw [if_pos running] at ended
    rw [begun]
    exact .inr ⟨[], exchanges, state, rfl, .inl ⟨running, rfl⟩, ended⟩
  · have begun : runner.begun inst = runner.started inst := if_neg running
    have allowed : inst.state.canMoveTo .running = true := by
      revert active running
      cases inst.state <;> decide
    have starts : inst.transitionTo .running runner.now = .ok (runner.started inst) :=
      Instance.transitionTo_eq_ok.mpr ⟨allowed, rfl⟩
    simp only [if_neg running, starts] at ended
    rcases ends_ask.mp ended with ⟨kept, middle, rest, rfl, saved, ended⟩
    rw [done_bind] at ended
    rw [begun]
    cases kept with
    | error failure =>
        rcases ends_done.mp ended with ⟨rfl, rfl, rfl⟩
        exact .inl ⟨failure, rfl, saved, rfl⟩
    | ok _ =>
        refine .inr ⟨[⟨.save (runner.started inst), .ok ()⟩], rest, middle, rfl, .inr ?_, ended⟩
        rw [begun]

/-- A run that has begun goes through its steps and draws its conclusion, if there is a step to
begin with. -/
theorem drive_ends {outcome : Except Failure Instance} (running : inst.state = .running)
    (ended : Ends world (runner.drive inst) state exchanges outcome final) :
    (firstStep? inst = none ∧ exchanges = [] ∧
      outcome = .error (.fault (Fault.noEntryStep.awaited))) ∨
    ∃ key driven closing ending between, firstStep? inst = some key ∧
      exchanges = driven ++ closing ∧
      runner.Drives world runner.settings.maxSteps.toNat inst key state driven ending between ∧
      Ends world (runner.conclude inst.id ending) between closing outcome final := by
  simp only [Runner.drive] at ended
  cases starts : firstStep? inst with
  | none =>
      simp only [starts] at ended
      rcases ends_done.mp ended with ⟨rfl, rfl, rfl⟩
      exact .inl ⟨rfl, rfl, rfl⟩
  | some key =>
      simp only [starts] at ended
      rcases ends_bind.mp ended with ⟨driven, ending, between, closing, rfl, drives, concludes⟩
      exact .inr ⟨key, driven, closing, ending, between, rfl, rfl, drives_of_ends running drives,
        concludes⟩

end Workflow
