import Workflow.Proofs.Outcome
import Workflow.Proofs.Pairing
import Workflow.Proofs.Selection

/-!
# Runs that are taken up again

A run saves its instance before and after every step.  From whatever it saved before it ended,
another run that takes the instance up goes on as the first one did, and ends in the same way:
with the same record but for times, and with the same failure if there was one.  The one exception
is a run that ended because it was not to execute more steps, since the other one counts its steps
anew.
-/

namespace Workflow

/-! ## Ends that are alike -/

/-- A run ended because it was not to execute more steps: it fails, though no step failed and no
failure got in the way. -/
def Runner.Exhausted {σ α : Type} (runner : Runner) (records : Records σ) (id : String)
    (outcome : Except Failure α) (final : σ) : Prop :=
  outcome.isOk = true ∧ ∃ last key, records.record? final id = some last ∧ last.state = .failed ∧
    last.failures = [] ∧
    last.errorMessage = .text (StepError.stepLimit key runner.settings.maxSteps).message

/-- Two runs gave the same failure or none, and left records that are the same but for times. -/
def Records.EndAlike {σ α β : Type} (records : Records σ) (id : String)
    (outcome : Except Failure α) (final : σ) (outcome' : Except Failure β) (final' : σ) : Prop :=
  outcome'.map (fun _ => ()) = outcome.map (fun _ => ()) ∧
    ∃ last twin, records.record? final id = some last ∧ records.record? final' id = some twin ∧
      last.Agrees twin

section Twin

variable {σ : Type} (records : Records σ) (repertoire : Repertoire) (runner : Runner) (id : String)

/-- Whenever two runs end, they end alike, or the first one used up its steps. -/
def Twin (proc : Proc (Except Failure Instance)) (state : σ)
    (other : Proc (Except Failure Instance)) (beside : σ) : Prop :=
  ∀ exchanges outcome final exchanges' outcome' final',
    Proc.Ends (records.calm repertoire) proc state exchanges outcome final →
    Proc.Ends (records.calm repertoire) other beside exchanges' outcome' final' →
    runner.Exhausted records id outcome final ∨ records.EndAlike id outcome final outcome' final'

variable {records repertoire runner id}
variable {proc other : Proc (Except Failure Instance)} {state beside : σ}

theorem Twin.ask_left {request : Request} {next : request.Answer → Proc (Except Failure Instance)}
    (twin : ∀ answer after, records.calm repertoire request state answer after →
      Twin records repertoire runner id (next answer) after other beside) :
    Twin records repertoire runner id (.ask request next) state other beside := by
  intro _ _ _ _ _ _ ended ended'
  cases ended with
  | ask answered rest => exact twin _ _ answered _ _ _ _ _ _ rest ended'

theorem Twin.save_left {saved : Instance}
    {next : Except Failure Unit → Proc (Except Failure Instance)}
    (twin : Twin records repertoire runner id (next (.ok ())) (records.save state saved)
      other beside) :
    Twin records repertoire runner id ((Proc.request (.save saved)).bind next) state
      other beside := by
  apply ask_left
  intro answer after answered
  rcases answered with ⟨rfl, rfl⟩
  exact twin

end Twin

/-! ## Runs that take up instances that agree -/

section Steps

variable {σ : Type} {records : Records σ} {repertoire : Repertoire} {runner : Runner} {id : String}
variable {later : Time.Timestamp} {state beside : σ} {inst other : Instance} {key : String}
variable {proc : Proc (Except Failure Instance)}

theorem quiet_moved (running : inst.state = .running) (sameId : inst.id = id) :
    records.Quiet id (records.save state (runner.moved inst key)) := by
  have interrupts : (runner.moved inst key).state.interrupts = false := by
    show inst.state.interrupts = false
    rw [running]
    rfl
  have quiet : records.Quiet (runner.moved inst key).id
      (records.save state (runner.moved inst key)) :=
    quiet_save interrupts
  rw [← sameId]
  exact quiet

end Steps

/-! ## Keys of steps -/

section Keys

variable {inst : Instance} {key : String}

end Keys

/-! ## Taking up what was saved -/

section Resumes

variable {σ : Type} {records : Records σ} {repertoire : Repertoire} {runner : Runner} {id : String}
variable {later : Time.Timestamp} {state beside : σ} {inst : Instance} {key : String}
variable {proc : Proc (Except Failure Instance)}

/-- An instance as a run saves it when it begins. -/
def Runner.started (runner : Runner) (inst : Instance) : Instance :=
  { inst with state := .running, updatedAt := runner.now }

/-- Whatever a run still saves before it ends, a run that takes it up ends alike. -/
def Resumable (records : Records σ) (repertoire : Repertoire) (runner : Runner) (id : String)
    (later : Time.Timestamp) (proc : Proc (Except Failure Instance)) (state : σ) : Prop :=
  ∀ exchanges outcome final,
    Proc.Ends (records.calm repertoire) proc state exchanges outcome final →
    ∀ exchange ∈ exchanges, ∀ snapshot, exchange.request = .save snapshot →
      snapshot.state.isTerminal = false → ∀ beside, records.record? beside id = some snapshot →
        ∀ exchanges' outcome' final',
          Proc.Ends (records.calm repertoire) ((runner.retimed later).resume id) beside
            exchanges' outcome' final' →
          runner.Exhausted records id outcome final ∨
            records.EndAlike id outcome final outcome' final'

theorem Resumable.ask {request : Request} {next : request.Answer → Proc (Except Failure Instance)}
    (saves : ∀ snapshot, request = .save snapshot → snapshot.state.isTerminal = false →
      ∀ beside, records.record? beside id = some snapshot →
        Twin records repertoire runner id (.ask request next) state
          ((runner.retimed later).resume id) beside)
    (rest : ∀ answer after, records.calm repertoire request state answer after →
      Resumable records repertoire runner id later (next answer) after) :
    Resumable records repertoire runner id later (.ask request next) state := by
  intro _ outcome final ended exchange member snapshot saved active beside held _ outcome' final'
    ended'
  cases ended with
  | ask answered tail =>
      cases List.mem_cons.mp member with
      | inl same =>
          subst same
          exact saves snapshot saved active beside held _ _ _ _ _ _ (.ask answered tail) ended'
      | inr inside =>
          exact rest _ _ answered _ _ _ tail exchange inside snapshot saved active beside held
            _ _ _ ended'

theorem Resumable.save {snapshot : Instance}
    {next : Except Failure Unit → Proc (Except Failure Instance)}
    (twin : ∀ beside, records.record? beside id = some snapshot →
      Twin records repertoire runner id (next (.ok ())) (records.save state snapshot)
        ((runner.retimed later).resume id) beside)
    (rest : Resumable records repertoire runner id later (next (.ok ()))
      (records.save state snapshot)) :
    Resumable records repertoire runner id later
      ((Proc.request (.save snapshot)).bind next) state := by
  refine ask ?_ ?_
  · rintro _ ⟨⟩ _ beside held
    exact Twin.save_left (twin beside held)
  · intro answer after answered
    rcases answered with ⟨rfl, rfl⟩
    exact rest

theorem Resumable.look {next : Interruption → Proc (Except Failure Instance)}
    (quiet : records.Quiet id state)
    (rest : Resumable records repertoire runner id later (next .none) state) :
    Resumable records repertoire runner id later ((checkInterrupted id).bind next) state := by
  rw [checkInterrupted_eq]
  apply ask (by rintro _ ⟨⟩)
  intro answer after answered
  have silent := looks_quiet quiet answered
  cases calm_spares rfl answered
  simp only [Proc.done_bind, silent]
  exact rest

theorem Resumable.log {level : Level} {line : String} {next : Unit → Proc (Except Failure Instance)}
    (rest : Resumable records repertoire runner id later (next ()) state) :
    Resumable records repertoire runner id later ((Proc.log level line).bind next) state := by
  apply ask (by rintro _ ⟨⟩)
  intro answer after answered
  cases calm_spares rfl answered
  exact rest

theorem Resumable.emit {event : Event} {next : Unit → Proc (Except Failure Instance)}
    (rest : Resumable records repertoire runner id later (next ()) state) :
    Resumable records repertoire runner id later ((Proc.emit event).bind next) state := by
  apply ask (by rintro _ ⟨⟩)
  intro delivered after answered
  cases calm_spares rfl answered
  cases delivered with
  | true => exact rest
  | false => exact log rest

end Resumes

/-! ## Instances that an engine starts -/

/-- How an engine saves a fresh instance and runs it. -/
def Runner.opened (runner : Runner) (id : String) (definition : Definition) (data : Dict) :
    Proc (Except Failure Instance) :=
  let inst := Instance.fresh id definition data runner.now
  (Proc.request (.save inst)).bind fun
    | .error failure => .done (.error failure)
    | .ok _ =>
      (Proc.log .info s!"Starting workflow {definition.name} as {id}").bind fun _ =>
        (Proc.emit (runner.event inst (.started data))).bind fun _ => runner.run inst

/-- Actions that all succeed. -/
def Repertoire.succeeding : Repertoire where
  make _ := .ok ()
  permits _ := .ok true
  perform _ := .ok (.result (.succeed []))

end Workflow
