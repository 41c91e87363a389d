import Workflow.Run.Request

/-!
# Procedures

A procedure is a computation that asks its surroundings, one request after the other, and goes on with
the answers. It is a tree: every answer to a request leads to the rest of the procedure. So one
procedure can be carried out against a store and also be interleaved with others, request by request.
-/

namespace Workflow

/-- A computation that asks its surroundings. -/
inductive Proc (α : Type) where
  | done (value : α)
  | ask (request : Request) (next : request.Answer → Proc α)

namespace Proc

variable {α β γ : Type}

/-- Goes on with the value of a procedure. -/
def bind : Proc α → (α → Proc β) → Proc β
  | .done value, next => next value
  | .ask request rest, next => .ask request fun answer => (rest answer).bind next

instance : Monad Proc where
  pure := .done
  bind := .bind

theorem bind_done (proc : Proc α) : proc.bind .done = proc := by
  induction proc with
  | done value => rfl
  | ask request next ih => simp only [bind, ih]

theorem bind_assoc (proc : Proc α) (first : α → Proc β) (second : β → Proc γ) :
    (proc.bind first).bind second = proc.bind fun value => (first value).bind second := by
  induction proc with
  | done value => rfl
  | ask request next ih => simp only [bind, ih]

instance : LawfulMonad Proc :=
  LawfulMonad.mk' Proc (fun proc => bind_done proc) (fun _ _ => rfl) bind_assoc

/-- One request, and its answer. -/
def request (request : Request) : Proc request.Answer :=
  .ask request .done

/-- Carries out a procedure, with every request answered by `serve`. -/
def perform {m : Type → Type} [Monad m] (serve : (request : Request) → m request.Answer) :
    Proc α → m α
  | .done value => pure value
  | .ask request next => do (next (← serve request)).perform serve

/-- Keeps a log record at a level. -/
def log (level : Level) (message : String) : Proc Unit :=
  request (.log ⟨level, message⟩)

/-- Delivers an event. A failure to deliver it is told in the log and has no other effect. -/
def emit (event : Event) : Proc Unit := do
  if ← request (.emit event) then pure () else log .error event.undeliveredLine

end Proc

end Workflow
