import Workflow.Proofs.Phase
import Workflow.Proofs.Records

/-!
# Pairs of runs

In a calm world nobody but a run itself touches its instance, and actions are functions of what
they are told about a step.  Two runs that take up instances which agree but for times then do the
same, one request after the other, although they draw different numbers and log different lines.

What is to be shown of two procedures is left open here.  A pairing is any property of them that
may be shown request by request, and every function that a run is made of is gone through once,
for all of them.
-/

namespace Workflow

/-! ## Calm worlds -/

/-- What actions are told about a step. -/
structure Occasion where
  purpose : Purpose
  action : String
  workflowId : String
  stepId : String
  config : Dict
  data : Dict

/-- The occasion of a use of an action. -/
def Invocation.occasion (invocation : Invocation) : Occasion :=
  ⟨invocation.purpose, invocation.action, invocation.context.workflowId, invocation.context.stepId,
    invocation.context.config, invocation.context.data⟩

/-- Actions that are functions of the occasion. -/
structure Repertoire where
  make : Occasion → Except Failure Unit
  permits : Occasion → Except Failure Bool
  perform : Occasion → Except Failure Reply

/-- Actions that answer by the occasion and leave the store alone, and waits that take place. -/
def Repertoire.actors {σ : Type} (repertoire : Repertoire) : Actors σ where
  make invocation state answer after :=
    answer = repertoire.make invocation.occasion ∧ after = state
  permits invocation state answer after :=
    answer = repertoire.permits invocation.occasion ∧ after = state
  perform invocation state answer after :=
    answer = repertoire.perform invocation.occasion ∧ after = state
  sleep _ state answer after := answer = .ok () ∧ after = state

/-- Actions that answer by the occasion, as functions. -/
def Repertoire.deeds {σ : Type} (repertoire : Repertoire) : Deeds σ where
  make invocation state := (repertoire.make invocation.occasion, state)
  permits invocation state := (repertoire.permits invocation.occasion, state)
  perform invocation state := (repertoire.perform invocation.occasion, state)

/-- The world of a store that nobody else changes. -/
def Records.calm {σ : Type} (records : Records σ) (repertoire : Repertoire) : World σ :=
  records.world repertoire.actors

/-- Whether a request leaves every store as it is. -/
def Request.spares : Request → Bool
  | .save _ | .remove _ => false
  | _ => true

/-- No instance that is stored under an id is cancelled or paused. -/
def Records.Quiet {σ : Type} (records : Records σ) (id : String) (state : σ) : Prop :=
  ∀ stored, records.record? state id = some stored → stored.state.interrupts = false

section Calm

variable {σ : Type} {records : Records σ} {repertoire : Repertoire} {id : String} {state after : σ}

theorem calm_spares {request : Request} {answer : request.Answer} (spares : request.spares = true)
    (answered : records.calm repertoire request state answer after) : after = state := by
  cases request with
  | save | remove => cases spares
  | contains | load | make | permits | perform | sleep => exact answered.2
  | list | draw | freshId | emit | log | http => exact answered

theorem quiet_save {inst : Instance} (running : inst.state.interrupts = false) :
    records.Quiet inst.id (records.save state inst) := by
  intro stored held
  rw [records.record?_save_self] at held
  cases held
  exact running

/-- In a quiet store a run finds nothing that interrupts it. -/
theorem Records.Quiet.look (quiet : records.Quiet id state) :
    Interruption.ofLoaded (records.load state id) = .none := by
  simp only [Records.load]
  cases held : records.record? state id with
  | none => rfl
  | some stored => simp [Interruption.ofLoaded, quiet stored held]

theorem looks_quiet {answer : Except Failure Instance} (quiet : records.Quiet id state)
    (answered : records.calm repertoire (.load id) state answer after) :
    Interruption.ofLoaded answer = .none := by
  rcases answered with ⟨rfl, _⟩
  exact quiet.look

end Calm

/-! ## Agreement -/

/-- Two instances are the same but for when they changed last and when their steps failed. -/
def Instance.Agrees (inst other : Instance) : Prop :=
  ∃ failures time, other = { inst with failures, updatedAt := time } ∧
    failures.map (fun failure => (failure.step, failure.error)) =
      inst.failures.map fun failure => (failure.step, failure.error)

namespace Instance.Agrees

variable {inst other : Instance}

@[refl] theorem refl (inst : Instance) : inst.Agrees inst :=
  ⟨_, _, rfl, rfl⟩

theorem id_eq (agrees : inst.Agrees other) : other.id = inst.id := by
  rcases agrees with ⟨_, _, rfl, _⟩
  rfl

theorem definition_eq (agrees : inst.Agrees other) : other.definition = inst.definition := by
  rcases agrees with ⟨_, _, rfl, _⟩
  rfl

theorem state_eq (agrees : inst.Agrees other) : other.state = inst.state := by
  rcases agrees with ⟨_, _, rfl, _⟩
  rfl

theorem data_eq (agrees : inst.Agrees other) : other.data = inst.data := by
  rcases agrees with ⟨_, _, rfl, _⟩
  rfl

end Instance.Agrees

theorem active_of_running {inst : Instance} (running : inst.state = .running) :
    inst.state.isTerminal = false := by
  rw [running]
  rfl

/-- A runner at another time. -/
def Runner.retimed (runner : Runner) (time : Time.Timestamp) : Runner :=
  { runner with now := time }

/-- What a step leaves of an instance as it is. -/
structure Instance.Continues (inst after : Instance) : Prop where
  id_eq : after.id = inst.id
  definition_eq : after.definition = inst.definition
  state_eq : after.state = inst.state
  failures_eq : after.failures = inst.failures

/-! ## Pairings -/

section Requests

variable {σ : Type} {records : Records σ} {repertoire : Repertoire} {id : String}
variable {paired : Proc (Except Failure Instance) → σ → Proc (Except Failure Instance) → σ → Prop}
variable {proc other : Proc (Except Failure Instance)} {state beside : σ}

end Requests

/-! ## Attempts -/

section Attempts

variable {σ : Type} {records : Records σ} {repertoire : Repertoire} {id : String}
variable {paired : Proc (Except Failure Instance) → σ → Proc (Except Failure Instance) → σ → Prop}
variable {state beside : σ} {runner : Runner} {time : Time.Timestamp}

end Attempts

/-! ## Steps -/

section Steps

variable {σ : Type} {records : Records σ} {repertoire : Repertoire} {id : String}
variable {paired : Proc (Except Failure Instance) → σ → Proc (Except Failure Instance) → σ → Prop}
variable {state beside : σ} {runner : Runner} {time : Time.Timestamp} {inst other : Instance}
variable {step : Step} {next next' : StepEnd → Proc (Except Failure Instance)}

end Steps

/-! ## Failing -/

section Failing

variable {σ : Type} {records : Records σ} {repertoire : Repertoire} {id : String}
variable {paired : Proc (Except Failure Instance) → σ → Proc (Except Failure Instance) → σ → Prop}
variable {state beside : σ} {runner : Runner} {time : Time.Timestamp} {inst other : Instance}

end Failing

/-! ## Runs -/

namespace Runner

/-- What a run does after it chose the next step. -/
def leave (runner : Runner) (remaining : Nat) (inst : Instance) (target : String) :
    Proc StepsEnd := do
  match ← runner.moveTo inst target with
  | (inst, .error failure) => pure (.raised inst failure)
  | (inst, .ok _) => runner.steps remaining inst target

/-- What a run does after it saved its instance at a step. -/
def visit (runner : Runner) (remaining : Nat) (inst : Instance) (key : String) (step : Step) :
    Proc StepsEnd := do
  match ← runner.executeStep inst step with
  | .failed error => do
    let ended ← runner.failStep inst step error
    pure ended.toStepsEnd
  | .stopped stored => pure (.stopped stored)
  | .raised failure => pure (.raised inst failure)
  | .processed inst =>
    match ← selectNext inst key with
    | .error failure => pure (.raised inst failure)
    | .ok none => runner.completeRun inst
    | .ok (some next) => runner.leave remaining inst next

/-- An instance as a run saves it at a step. -/
def moved (runner : Runner) (inst : Instance) (key : String) : Instance :=
  { inst with currentStep := .text key, updatedAt := runner.now }

variable {runner : Runner} {inst : Instance} {key : String} {step : Step} {remaining : Nat}

theorem setCurrentStep_running (running : inst.state = .running) :
    inst.setCurrentStep (.text key) runner.now = .ok (runner.moved inst key) :=
  Instance.setCurrentStep_eq_ok.mpr ⟨active_of_running running, rfl⟩

end Runner

section Runs

variable {σ : Type} {records : Records σ} {repertoire : Repertoire} {id : String}
variable {paired : Proc (Except Failure Instance) → σ → Proc (Except Failure Instance) → σ → Prop}
variable {state beside : σ} {runner : Runner} {time : Time.Timestamp} {inst other : Instance}
variable {key : String}

end Runs

end Workflow
