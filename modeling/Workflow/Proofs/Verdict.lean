import Workflow.Proofs.Delivery
import Workflow.Proofs.Pairing
import Workflow.Proofs.Refusal
import Workflow.Proofs.Rejection

/-!
# Refused calls

All that a call is refused for is found out before anything is written: a refused call leaves every
record as it was and tells of nothing.  Which calls are refused can be read off the store, and no
call writes to another record than that of its own instance.  A verdict says all of this of the
exchanges and the outcome of a call; it is followed backwards through the call, from the outcome to
the first request.
-/

namespace Workflow

open Proc

/-- A call was refused. -/
def Refused {α : Type} (outcome : Except Failure α) : Prop :=
  ∃ failure, outcome = .error failure ∧ failure.refuses = true

theorem not_refused_ok {α : Type} (value : α) : ¬ Refused (.ok value) := by
  rintro ⟨_, ⟨⟩, _⟩

theorem refused_error {α : Type} {failure : Failure} :
    Refused (.error failure : Except Failure α) ↔ failure.refuses = true := by
  constructor
  · rintro ⟨_, ⟨⟩, refuses⟩
    exact refuses
  · intro refuses
    exact ⟨failure, rfl, refuses⟩

theorem refused_map {α β : Type} {outcome : Except Failure α} (change : α → β) :
    Refused (outcome.map change) ↔ Refused outcome := by
  cases outcome with
  | error failure => rw [refused_error, ← refused_error]; rfl
  | ok value => exact iff_of_false (not_refused_ok _) (not_refused_ok _)

/-- Whether an exchange neither changed a record nor told of anything; an instance that was to be
removed was not there. -/
def Request.Answered.isHarmless : Request.Answered → Bool
  | ⟨.remove _, removed⟩ => removed = .ok false
  | ⟨request, _⟩ => request.isQuiet

namespace EngineCall

end EngineCall

/-! ### What courses give -/

/-- All courses of a procedure end with exchanges, a value and a state of which something holds. -/
def Proc.Gives {α σ : Type} (world : World σ) (proc : Proc α) (state : σ)
    (holds : List Request.Answered → α → σ → Prop) : Prop :=
  ∀ exchanges value final, Ends world proc state exchanges value final → holds exchanges value final

section Giving

variable {α σ : Type} {world : World σ} {records : Records σ} {state : σ}
variable {holds : List Request.Answered → α → σ → Prop}

end Giving

/-! ### Verdicts -/

/-- What becomes of a call that may alter some records: it is refused if and only if it is unfit, it
has done nothing if it is refused, and it has altered no other record. -/
structure Verdict {α : Type} (unfit : Prop) (own : String → Prop)
    (exchanges : List Request.Answered) (outcome : Except Failure α) : Prop where
  refused_iff : Refused outcome ↔ unfit
  harmless : Refused outcome → ∀ exchange ∈ exchanges, exchange.isHarmless = true
  owned : ∀ exchange ∈ exchanges, ∀ id, alters id exchange.request = true → own id

namespace Verdict

variable {α : Type} {unfit : Prop} {own : String → Prop} {exchanges : List Request.Answered}
variable {outcome : Except Failure α} {request : Request} {answer : request.Answer}

theorem refusal {failure : Failure} (refuses : failure.refuses = true) (bad : unfit) :
    Verdict unfit own [] (.error failure : Except Failure α) where
  refused_iff := iff_of_true (refused_error.mpr refuses) bad
  harmless _ := by
    intro exchange member
    cases member
  owned := by
    intro exchange member
    cases member

theorem congr {unfit' : Prop} {own' : String → Prop} (verdict : Verdict unfit own exchanges outcome)
    (same : unfit ↔ unfit') (covers : ∀ id, own id → own' id) :
    Verdict unfit' own' exchanges outcome where
  refused_iff := verdict.refused_iff.trans same
  harmless := verdict.harmless
  owned exchange member id altering := covers id (verdict.owned exchange member id altering)

theorem map {β : Type} (verdict : Verdict unfit own exchanges outcome) (change : α → β) :
    Verdict unfit own exchanges (outcome.map change) where
  refused_iff := (refused_map change).trans verdict.refused_iff
  harmless refused := verdict.harmless ((refused_map change).mp refused)
  owned := verdict.owned

end Verdict

section Calls

variable {σ : Type} {records : Records σ} {state : σ} {runner : Runner} {id : String}

end Calls

/-- Actions that give nothing. -/
def Repertoire.idle : Repertoire :=
  ⟨fun _ => .ok (), fun _ => .ok true, fun _ => .ok (.other .null)⟩

end Workflow
