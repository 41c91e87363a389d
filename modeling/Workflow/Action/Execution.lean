import Workflow.Action.Context
import Workflow.Action.Result
import Workflow.Log

/-!
# Carrying out an action

Most actions are carried out in the same way: what they do is told in the log, their prerequisites are
asked first, and whatever goes wrong in their own work becomes a failed result.
-/

namespace Workflow

/-- The text of a failure, or its kind if the text is empty. -/
def Failure.textOrKind (failure : Failure) : String :=
  if failure.text = "" then failure.kind else failure.text

/-- The line for an action that is about to be carried out. -/
def executingLine (name : String) (context : Context) : String :=
  s!"Executing action {name} for workflow={context.workflowId} step={context.stepId}"

/-- Carries out an action. A failure to ask for its prerequisites is passed on; one of its own work is
not, unless its text cannot stand for a failed result. -/
def carryOut {m : Type → Type} [Monad m] (log : LogRecord → m Unit) (name : String)
    (context : Context) (permitted : m (Except Failure Bool)) (work : m (Except Failure Reply)) :
    m (Except Failure Reply) := do
  log ⟨.info, executingLine name context⟩
  match ← permitted with
  | .error failure => pure (.error failure)
  | .ok false => pure (Reply.result <$> ActionResult.failed "Prerequisites not met" [])
  | .ok true =>
    match ← work with
    | .error failure => do
      log ⟨.error, s!"Action {name} failed: {failure.text}"⟩
      pure (Reply.result <$> ActionResult.failed failure.textOrKind [])
    | .ok reply => do
      log ⟨.info, s!"Action {name} completed"⟩
      pure (.ok reply)

end Workflow
