import Workflow.Proofs.Phase

/-!
# Runs go through their phases

Every function that a run is made of is governed, whatever comes after it, by the phases that it
passes through.  The main statement is `run_governed`: a run is governed from the phase in which
it was called.
-/

namespace Workflow

open Protocol

variable {runner : Runner}

/-! ## Requests that phases share -/

section Shared

variable {phase : Phase}

theorem log_governed {level : Level} {message : String}
    {next : Unit → Proc (Except Failure Instance)}
    (governed : runner.protocol.Governs phase (next ())) :
    runner.protocol.Governs phase ((Proc.log level message).bind next) :=
  Governs.ask (fun _ => phase) (fun _ => Phase.Moves.log) fun _ => governed

theorem emit_governed {event : Event} {after : Phase}
    {next : Unit → Proc (Except Failure Instance)} (emits : phase.Emits runner event after)
    (governed : runner.protocol.Governs after (next ())) :
    runner.protocol.Governs phase ((Proc.emit event).bind next) := by
  apply Governs.ask (fun _ => after) (fun _ => Phase.Moves.emit emits)
  intro delivered
  cases delivered with
  | true => exact governed
  | false => exact log_governed governed

theorem checkInterrupted_governed {inst : Instance} {onward : Phase}
    {next : Interruption → Proc (Except Failure Instance)} (looks : phase.Looks inst onward)
    (none : runner.protocol.Governs onward (next .none))
    (stopped : ∀ stored, runner.protocol.Governs (.stopped stored) (next (.stopped stored)))
    (raised : ∀ failure, runner.protocol.Governs (.raised inst failure) (next (.raised failure))) :
    runner.protocol.Governs phase ((checkInterrupted inst.id).bind next) := by
  rw [checkInterrupted_eq]
  apply Governs.ask (fun answer => Phase.afterLook inst onward (.ofLoaded answer))
  · intro answer
    exact Phase.Moves.look looks
  · intro answer
    simp only [Proc.done_bind]
    cases Interruption.ofLoaded answer with
    | none => exact none
    | stopped stored => exact stopped stored
    | raised failure => exact raised failure

theorem save_governed {saved : Instance} {kept : Phase} {lost : Failure → Phase}
    {next : Except Failure Unit → Proc (Except Failure Instance)}
    (saves : phase.Saves runner saved kept lost)
    (keep : runner.protocol.Governs kept (next (.ok ())))
    (lose : ∀ failure, runner.protocol.Governs (lost failure) (next (.error failure))) :
    runner.protocol.Governs phase ((Proc.request (.save saved)).bind next) := by
  apply Governs.ask fun answer =>
    match answer with
    | .ok _ => kept
    | .error failure => lost failure
  · intro answer
    cases answer with
    | ok _ => exact Phase.Moves.keep saves
    | error failure => exact Phase.Moves.lose saves
  · intro answer
    cases answer with
    | ok _ => exact keep
    | error failure => exact lose failure

end Shared

/-! ## Attempts -/

section Attempts

variable {phase : Phase}

theorem attemptOnce_governed (trial : Trial)
    {next : Except StepError ActionResult → Proc (Except Failure Instance)}
    (tried : ∀ outcome, runner.protocol.Governs (.tried trial outcome) (next outcome)) :
    runner.protocol.Governs (.attempt trial)
      ((attemptOnce trial.visit.step trial.action (trial.context runner) trial.attempt).bind next)
      := by
  apply Governs.ask (Phase.afterPermit trial) (fun _ => Phase.Moves.act .permit)
  intro permitted
  match permitted with
  | .error failure => exact tried _
  | .ok false => exact tried _
  | .ok true =>
      apply Governs.ask (fun answer => .tried trial (trial.outcome answer))
        (fun _ => Phase.Moves.act .perform)
      intro answer
      cases answer with
      | error failure => exact tried _
      | ok reply => exact tried _

theorem waitDrawn_governed (trial : Trial)
    (wait : Number.Binary64 → Except Fault Number.Binary64)
    {next : Except Failure Unit → Proc (Except Failure Instance)}
    (draws : ∀ fraction : Number.Binary64,
      Phase.Moves runner phase .draw fraction (Phase.afterDraw trial wait fraction))
    (again : runner.protocol.Governs (.attempt trial.again) (next (.ok ())))
    (raised : ∀ failure,
      runner.protocol.Governs (.raised trial.visit.inst failure) (next (.error failure))) :
    runner.protocol.Governs phase ((waitDrawn wait).bind next) := by
  apply Governs.ask (Phase.afterDraw trial wait) draws
  intro fraction
  simp only [Proc.done_bind, Phase.afterDraw]
  cases wait fraction with
  | error fault => exact raised _
  | ok seconds =>
      apply Governs.ask (Phase.afterRest trial) (fun _ => Phase.Moves.act .rest)
      intro rested
      cases rested with
      | error failure => exact raised failure
      | ok _ => exact again

theorem wait_governed (trial : Trial)
    {next : Except Failure Unit → Proc (Except Failure Instance)}
    (again : runner.protocol.Governs (.attempt trial.again) (next (.ok ())))
    (raised : ∀ failure,
      runner.protocol.Governs (.raised trial.visit.inst failure) (next (.error failure))) :
    runner.protocol.Governs (.waiting trial) ((runner.wait trial.attempt).bind next) := by
  simp only [Runner.wait]
  cases backs : runner.settings.retryBackoff with
  | false => exact .shift (Phase.Shifts.unwaited backs) again
  | true =>
      exact waitDrawn_governed trial (runner.backoff trial.attempt)
        (fun _ => Phase.Moves.act (.draw backs)) again raised

variable {visit : Visit} {action : String} {config : Dict}
  {next : AttemptsEnd → Proc (Except Failure Instance)}

theorem attempts_governed
    (succeeded : ∀ result,
      runner.protocol.Governs (.succeeded visit result) (next (.succeeded result)))
    (failed : ∀ error,
      runner.protocol.Governs (.failing visit.inst visit.step error) (next (.failed error)))
    (stopped : ∀ stored, runner.protocol.Governs (.stopped stored) (next (.stopped stored)))
    (raised : ∀ failure,
      runner.protocol.Governs (.raised visit.inst failure) (next (.raised failure)))
    (fuel attempt : Nat) :
    runner.protocol.Governs (.attempt ⟨visit, action, config, fuel, attempt⟩)
      ((runner.attempts visit.inst visit.step action
        (runner.context visit.inst visit.step config) fuel attempt).bind next) := by
  rw [Runner.attempts.eq_def, Proc.then_bind]
  apply attemptOnce_governed ⟨visit, action, config, fuel, attempt⟩
  intro outcome
  cases outcome with
  | ok result =>
      rw [Proc.then_bind]
      exact checkInterrupted_governed .after (succeeded result) stopped raised
  | error error =>
      rw [Proc.then_bind]
      refine checkInterrupted_governed .after ?_ stopped raised
      rw [Proc.then_bind]
      apply emit_governed .stepFailed
      cases fuel with
      | zero => exact .shift (Phase.Shifts.exhausted (.inl rfl)) (failed error)
      | succ fuel =>
          cases retries : error.canRetry with
          | false => exact .shift (Phase.Shifts.exhausted (.inr retries)) (failed error)
          | true =>
              refine .shift (Phase.Shifts.retry rfl retries) ?_
              simp only [Bool.not_true, Bool.false_eq_true, ↓reduceIte]
              rw [Proc.then_bind]
              apply log_governed
              rw [Proc.then_bind]
              refine wait_governed ⟨visit, action, config, fuel, attempt⟩ ?_ raised
              exact attempts_governed succeeded failed stopped raised fuel (attempt + 1)

end Attempts

/-! ## Steps -/

section Steps

variable {visit : Visit} {next : StepEnd → Proc (Except Failure Instance)}

theorem complete_governed {result : ActionResult}
    (processed : ∀ inst, runner.protocol.Governs (.processed visit.remaining inst visit.key)
      (next (.processed inst)))
    (raised : ∀ failure,
      runner.protocol.Governs (.raised visit.inst failure) (next (.raised failure))) :
    runner.protocol.Governs (.succeeded visit result)
      ((runner.complete visit.inst visit.step result).bind next) := by
  simp only [Runner.complete]
  cases merges : visit.inst.mergeData result.data runner.now with
  | error error =>
      have unmerged : (visit.inst.mergeData result.data runner.now).bind
          (·.markCompleted (.text visit.step.id) runner.now) = .error error := by
        rw [merges]
        rfl
      exact .shift (.unmerged unmerged) (raised _)
  | ok merged =>
      simp only [bind, Except.bind]
      cases marks : merged.markCompleted (.text visit.step.id) runner.now with
      | error error =>
          have unmerged : (visit.inst.mergeData result.data runner.now).bind
              (·.markCompleted (.text visit.step.id) runner.now) = .error error := by
            rw [merges]
            exact marks
          exact .shift (.unmerged unmerged) (raised _)
      | ok inst =>
          refine .shift (Phase.Shifts.merged merges marks) ?_
          simp only [Proc.bind_assoc]
          exact log_governed (emit_governed .stepCompleted (processed inst))

theorem act_governed {action : String} {config : Dict}
    (holds : Condition.firstFalse? .text (.dict visit.inst.data) visit.step.conditions = .ok none)
    (renders : renderParameters visit.inst visit.step = .ok config)
    (acts : visit.step.action = some action)
    (processed : ∀ inst, runner.protocol.Governs (.processed visit.remaining inst visit.key)
      (next (.processed inst)))
    (failed : ∀ error,
      runner.protocol.Governs (.failing visit.inst visit.step error) (next (.failed error)))
    (stopped : ∀ stored, runner.protocol.Governs (.stopped stored) (next (.stopped stored)))
    (raised : ∀ failure,
      runner.protocol.Governs (.raised visit.inst failure) (next (.raised failure))) :
    runner.protocol.Governs (.visit visit)
      ((runner.act visit.inst visit.step action config).bind next) := by
  simp only [Runner.act]
  cases registered : runner.actions.contains action with
  | false =>
      exact .shift (Phase.Shifts.unregistered holds renders acts registered) (raised _)
  | true =>
      refine .shift (Phase.Shifts.ready holds renders acts registered) ?_
      simp only [Bool.not_true, Bool.false_eq_true, ↓reduceIte, Proc.then_bind]
      apply Governs.ask (Phase.afterMake _) (fun _ => Phase.Moves.act .make)
      intro made
      simp only [Proc.done_bind]
      split
      · exact raised _
      · next failure other =>
          rw [Phase.afterMake_error other]
          exact failed _
      · rw [Proc.then_bind]
        refine attempts_governed ?_ failed stopped raised _ _
        intro result
        exact complete_governed processed raised

theorem declineStep_governed {condition : String}
    (declines : Condition.firstFalse? .text (.dict visit.inst.data) visit.step.conditions =
      .ok (some condition))
    (processed : ∀ inst, runner.protocol.Governs (.processed visit.remaining inst visit.key)
      (next (.processed inst)))
    (failed : ∀ error,
      runner.protocol.Governs (.failing visit.inst visit.step error) (next (.failed error)))
    (raised : ∀ failure,
      runner.protocol.Governs (.raised visit.inst failure) (next (.raised failure))) :
    runner.protocol.Governs (.visit visit)
      ((runner.declineStep visit.inst visit.step condition).bind next) := by
  simp only [Runner.declineStep]
  cases policy : runner.settings.policy with
  | fail => exact .shift (Phase.Shifts.declined declines policy) (failed _)
  | skip =>
      simp only [Proc.then_bind]
      apply log_governed
      cases skips : visit.inst.markSkipped (.text visit.step.id) runner.now with
      | ok inst => exact .shift (Phase.Shifts.skipped declines policy skips) (processed inst)
      | error error => exact .shift (Phase.Shifts.unskippable declines policy skips) (raised _)

theorem executeStep_governed
    (processed : ∀ inst, runner.protocol.Governs (.processed visit.remaining inst visit.key)
      (next (.processed inst)))
    (failed : ∀ error,
      runner.protocol.Governs (.failing visit.inst visit.step error) (next (.failed error)))
    (stopped : ∀ stored, runner.protocol.Governs (.stopped stored) (next (.stopped stored)))
    (raised : ∀ failure,
      runner.protocol.Governs (.raised visit.inst failure) (next (.raised failure))) :
    runner.protocol.Governs (.visit visit)
      ((runner.executeStep visit.inst visit.step).bind next) := by
  simp only [Runner.executeStep]
  cases holds : Condition.firstFalse? .text (.dict visit.inst.data) visit.step.conditions with
  | error failure => exact .shift (Phase.Shifts.unevaluated holds) (raised failure)
  | ok declined =>
      cases declined with
      | some condition => exact declineStep_governed holds processed failed raised
      | none =>
          simp only [Proc.then_bind]
          apply log_governed
          cases renders : renderParameters visit.inst visit.step with
          | error failure => exact .shift (Phase.Shifts.unrendered holds renders) (raised failure)
          | ok config =>
              cases acts : visit.step.action with
              | none =>
                  refine .shift (Phase.Shifts.gate holds renders acts) ?_
                  exact complete_governed processed raised
              | some action => exact act_governed holds renders acts processed failed stopped raised

end Steps

/-! ## Failing -/

section Failing

variable {inst : Instance} {message : String} {context : Dict}
  {next : FailingEnd → Proc (Except Failure Instance)}

theorem finalizeFailure_governed
    (failed : ∀ failed, runner.protocol.Governs (.ended (.ok failed)) (next (.failed failed)))
    (raised : ∀ inst failure,
      runner.protocol.Governs (.raised inst failure) (next (.raised inst failure))) :
    runner.protocol.Governs (.closing inst message context none)
      ((runner.finalizeFailure inst message context).bind next) := by
  simp only [Runner.finalizeFailure]
  cases fails : inst.fail (.text message) runner.now with
  | error error => exact .shift (Phase.Shifts.unfailable fails) (raised _ _)
  | ok failing =>
      simp only [Proc.then_bind]
      refine save_governed (.fail fails) ?_ fun failure => raised _ _
      rw [Proc.then_bind]
      exact emit_governed .failed (failed failing)

theorem abort_governed (failure : Failure) :
    runner.protocol.Governs (.raised inst failure)
      (runner.abort inst failure.abortMessage failure) := by
  simp only [Runner.abort]
  cases terminal : inst.state.isTerminal with
  | true => exact .shift (Phase.Shifts.settled terminal) (.done rfl)
  | false =>
      refine .shift (Phase.Shifts.aborted terminal) ?_
      simp only [Bool.false_eq_true, ↓reduceIte, Proc.bind_eq]
      simp only [Runner.finalizeFailure]
      cases fails : inst.fail (.text failure.abortMessage) runner.now with
      | error error => exact .shift (Phase.Shifts.unabortable fails) (.done rfl)
      | ok failed =>
          simp only [Proc.then_bind]
          refine save_governed (.abort fails) ?_ fun other => .done rfl
          rw [Proc.then_bind]
          exact emit_governed .aborted (.done rfl)

theorem compensate_governed {error : StepError} {pending : List Step}
    {next : Except Failure Unit → Proc (Except Failure Instance)}
    (undone : runner.protocol.Governs (.closing inst error.message error.context none)
      (next (.ok ())))
    (raised : ∀ failure, runner.protocol.Governs (.raised inst failure) (next (.error failure))) :
    runner.protocol.Governs (.undoing inst error pending)
      ((runner.compensate inst pending).bind next) := by
  induction pending with
  | nil => exact .shift Phase.Shifts.undone undone
  | cons step pending ih =>
      simp only [Runner.compensate]
      cases undoes : step.compensation with
      | none => exact .shift (Phase.Shifts.irreversible undoes) ih
      | some action =>
          cases renders : renderParameters inst step with
          | error failure =>
              exact .shift (Phase.Shifts.undoUnrendered undoes renders) (raised failure)
          | ok config =>
              simp only [Proc.then_bind]
              simp only [Runner.performCompensation]
              cases registered : runner.actions.contains action with
              | false =>
                  refine .shift (Phase.Shifts.undoUnregistered undoes renders registered) ?_
                  exact log_governed ih
              | true =>
                  simp only [Bool.not_true, Bool.false_eq_true, ↓reduceIte, Proc.then_bind]
                  refine Governs.ask (Phase.afterUnmake _ _ _ _)
                    (fun _ => Phase.Moves.act (.unmake undoes renders registered)) fun made => ?_
                  cases made with
                  | error failure => exact log_governed ih
                  | ok _ =>
                      refine Governs.ask (fun _ => .undoing inst error pending)
                        (fun _ => Phase.Moves.act .undo) fun reply => ?_
                      cases reply with
                      | error failure => exact log_governed ih
                      | ok reply =>
                          exact Governs.ask (fun _ => _) (fun _ => Phase.Moves.log) fun _ => ih

theorem failStep_governed {step : Step} {error : StepError}
    (failed : ∀ failed, runner.protocol.Governs (.ended (.ok failed)) (next (.failed failed)))
    (raised : ∀ inst failure,
      runner.protocol.Governs (.raised inst failure) (next (.raised inst failure))) :
    runner.protocol.Governs (.failing inst step error)
      ((runner.failStep inst step error).bind next) := by
  simp only [Runner.failStep]
  rw [Proc.then_bind]
  apply log_governed
  cases marks : inst.markFailed step.id error.message runner.now with
  | error refused => exact .shift (Phase.Shifts.unmarkable marks) (raised _ _)
  | ok inst =>
      refine .shift (Phase.Shifts.marked marks) ?_
      simp only [Proc.then_bind]
      exact compensate_governed (finalizeFailure_governed failed raised) (raised _)

end Failing

/-! ## Runs -/

section Runs

theorem selectNext_governed {remaining : Nat} {inst : Instance} {key : String}
    {next : Except Failure (Option String) → Proc (Except Failure Instance)}
    (last : runner.protocol.Governs (.finishing inst) (next (.ok none)))
    (chosen : ∀ target,
      runner.protocol.Governs (.leaving remaining inst target) (next (.ok (some target))))
    (raised : ∀ failure, runner.protocol.Governs (.raised inst failure) (next (.error failure))) :
    runner.protocol.Governs (.processed remaining inst key) ((selectNext inst key).bind next) := by
  have answered : runner.protocol.Governs (.processed remaining inst key)
      (next (chosenStep inst key)) := by
    cases chooses : chosenStep inst key with
    | error failure => exact .shift (Phase.Shifts.unchosen chooses) (raised failure)
    | ok target =>
        cases target with
        | none => exact .shift (Phase.Shifts.last chooses) last
        | some target => exact .shift (Phase.Shifts.chosen chooses) (chosen target)
  cases selectNext_eq inst key with
  | inl silent =>
      rw [silent]
      exact answered
  | inr told =>
      rcases told with ⟨line, told⟩
      rw [told, Proc.bind_assoc]
      exact log_governed answered

theorem moveTo_governed {phase : Phase} {inst : Instance} {key : String} {kept : Instance → Phase}
    {next : Instance × Except Failure Unit → Proc (Except Failure Instance)}
    (frozen : ∀ error, inst.setCurrentStep (.text key) runner.now = .error error →
      runner.protocol.Governs phase (next (inst, .error (.transition error))))
    (saves : ∀ moved, inst.setCurrentStep (.text key) runner.now = .ok moved →
      phase.Saves runner moved (kept moved) (.raised moved))
    (keep : ∀ moved, runner.protocol.Governs (kept moved) (next (moved, .ok ())))
    (lose : ∀ moved failure,
      runner.protocol.Governs (.raised moved failure) (next (moved, .error failure))) :
    runner.protocol.Governs phase ((runner.moveTo inst key).bind next) := by
  simp only [Runner.moveTo]
  cases moves : inst.setCurrentStep (.text key) runner.now with
  | error error => exact frozen error moves
  | ok moved =>
      simp only [Proc.then_bind]
      exact save_governed (saves moved moves) (keep moved) (lose moved)

theorem conclude_governed {id : String} (inst : Instance) (failure : Failure) :
    runner.protocol.Governs (.raised inst failure) (runner.conclude id (.raised inst failure)) := by
  rcases conclude_raised_eq runner id inst failure with ⟨line, told⟩
  rw [told]
  exact log_governed (abort_governed failure)

theorem completeRun_governed {id : String} (inst : Instance) :
    runner.protocol.Governs (.finishing inst)
      ((runner.completeRun inst).bind (runner.conclude id)) := by
  simp only [Runner.completeRun]
  cases completes : inst.transitionTo .completed runner.now with
  | error error => exact .shift (Phase.Shifts.uncompletable completes) (conclude_governed _ _)
  | ok completed =>
      simp only [Proc.then_bind]
      refine save_governed (.complete completes) ?_ fun failure => conclude_governed _ _
      simp only [Proc.then_bind]
      exact log_governed (emit_governed .completed (.done rfl))

theorem steps_governed (id : String) (remaining : Nat) (inst : Instance) (key : String) :
    runner.protocol.Governs (.loop remaining inst key)
      ((runner.steps remaining inst key).bind (runner.conclude id)) := by
  have stopped (stored : Instance) :
      runner.protocol.Governs (.stopped stored) (runner.conclude id (.stopped stored)) :=
    log_governed (.shift Phase.Shifts.stopped (.done rfl))
  rw [Runner.steps.eq_def, Proc.then_bind]
  refine checkInterrupted_governed .before ?_ stopped (conclude_governed _)
  cases declared : inst.definition.step? key with
  | none => exact .shift (Phase.Shifts.unknownStep declared) (conclude_governed _ _)
  | some step =>
      cases remaining with
      | zero =>
          simp only [Runner.exceedLimit]
          simp only [Proc.then_bind]
          refine .shift (Phase.Shifts.exceed declared) (log_governed ?_)
          exact finalizeFailure_governed (fun _ => .done rfl) conclude_governed
      | succ remaining =>
          rw [Proc.then_bind]
          refine moveTo_governed
            (fun error moves => .shift (Phase.Shifts.unenterable moves) (conclude_governed _ _))
            (fun moved moves => .enter declared moves) (fun inst => ?_) conclude_governed
          rw [Proc.then_bind]
          refine executeStep_governed (fun inst => ?_) (fun error => ?_) stopped
            (conclude_governed _)
          · rw [Proc.then_bind]
            refine selectNext_governed (completeRun_governed inst) (fun target => ?_)
              (conclude_governed inst)
            rw [Proc.then_bind]
            refine moveTo_governed
              (fun error moves => .shift (Phase.Shifts.unleavable moves) (conclude_governed _ _))
              (fun moved moves => .leave moves) (fun inst => ?_) conclude_governed
            exact steps_governed id remaining inst target
          · rw [Proc.then_bind]
            exact failStep_governed (fun _ => .done rfl) conclude_governed

theorem drive_governed (inst : Instance) :
    runner.protocol.Governs (.begun inst) (runner.drive inst) := by
  simp only [Runner.drive]
  cases enters : firstStep? inst with
  | none => exact .shift (Phase.Shifts.noEntry enters) (.done rfl)
  | some key =>
      exact .shift (Phase.Shifts.entry enters) (steps_governed inst.id _ inst key)

/-- A run goes through its phases from the one in which it was called. -/
theorem run_governed (inst : Instance) :
    runner.protocol.Governs (.idle inst) (runner.run inst) := by
  simp only [Runner.run]
  cases terminal : inst.state.isTerminal with
  | true => exact .shift (Phase.Shifts.unresumable terminal) (.done rfl)
  | false =>
      simp only [Bool.false_eq_true, ↓reduceIte]
      by_cases running : inst.state = .running
      · simp only [running, ↓reduceIte]
        exact .shift (Phase.Shifts.resume running) (drive_governed inst)
      · simp only [running, ↓reduceIte]
        cases starts : inst.transitionTo .running runner.now with
        | error error =>
            exact .shift (Phase.Shifts.unstartable terminal running starts) (.done rfl)
        | ok running =>
            refine save_governed (.start terminal ‹_› starts) (drive_governed _) ?_
            exact fun failure => .done rfl

end Runs

end Workflow
