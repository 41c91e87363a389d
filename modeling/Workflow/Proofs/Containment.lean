import Workflow.Proofs.Resumption
import Workflow.Proofs.Rows
import Workflow.Proofs.Telling

/-!
# Failures that are contained

An action is carried out so that whatever its own work fails with becomes a failed result.  The
words for the failure are its message, and a message must not be blank: a failure that tells nothing
is not contained, and the error about the message takes its place.  An action that sends requests
comes to such a failure only if the server fails with one.
-/

namespace Workflow

open Proc Text

/-! ## Failed results -/

namespace ActionResult

/-- What is wrong with a failed result whose message is blank. -/
def blankMessage : Failure :=
  .invalid [⟨[], .refused⟩]

/-- Whether a result succeeded or has a message. -/
def tells (result : ActionResult) : Bool :=
  result.succeeded || isMessage result.errorMessage

/-- A message makes a failed result, unless it is blank. -/
theorem failed_eq {metadata : Dict} (message : String) (keyed : metadata.KeyedByText) :
    failed message metadata =
      if isBlankText message then .error blankMessage
      else .ok ⟨false, some message, [], metadata⟩ := by
  let fields : List (String × Value) := [("succeeded", .bool false),
    ("error_message", .text message), ("metadata", .dict metadata)]
  have failing : Reader.required (Dict.ofFields fields) "succeeded" .bool = .valid false :=
    Reader.required_ofFields rfl rfl
  have told : Reader.defaulted (Dict.ofFields fields) "error_message" (.optional .text) none =
      .valid (some message) :=
    Reader.defaulted_ofFields rfl rfl
  have bare : Reader.defaulted (Dict.ofFields fields) "data" .dict [] = .valid [] := by
    simp only [Reader.defaulted, Dict.field?_ofFields]
    rfl
  have noted : Reader.defaulted (Dict.ofFields fields) "metadata" .dict [] = .valid metadata :=
    Reader.defaulted_ofFields rfl (Reader.dict_eq_valid keyed)
  have read : ofFields (Dict.ofFields fields) = checked ⟨false, some message, [], metadata⟩ := by
    simp only [ofFields, failing, told, bare, noted, Checked.map_valid, Checked.seq_valid]
  have made : failed message metadata = (ofFields (Dict.ofFields fields)).toExcept := by
    simp only [failed, failure, Dict.ofValue_dict keyed]
    rfl
  rw [made, read]
  cases blank : isBlankText message with
  | true =>
      simp only [checked, isMessage, Option.any_some, blank]
      rfl
  | false =>
      simp only [checked, isMessage, Option.any_some, blank]
      rfl

theorem failed_of_filled {message : String} {metadata : Dict}
    (filled : isBlankText message = false) (keyed : metadata.KeyedByText) :
    failed message metadata = .ok ⟨false, some message, [], metadata⟩ := by
  simp [failed_eq message keyed, filled]

end ActionResult

/-! ## What comes of the work of an action -/

/-- What is made of what the work of an action came to: a reply is passed on, and a failure becomes
a failed result with the words for it, unless these are blank. -/
def contained : Except Failure Reply → Except Failure Reply
  | .ok reply => .ok reply
  | .error failure =>
    if failure.tells then .ok (.result ⟨false, some failure.textOrKind, [], []⟩)
    else .error ActionResult.blankMessage

section Execution

variable {σ : Type} {world : World σ} {name : String} {context : Context}
  {permitted : Proc (Except Failure Bool)} {work : Proc (Except Failure Reply)}

end Execution

/-! ## Requests that are sent -/

/-- What work came to can be told: a result that succeeded or has a message, or a failure that tells
what went wrong. -/
def Accounted : Except Failure ActionResult → Prop
  | .ok result => result.tells = true
  | .error failure => failure.tells = true

namespace Accounted

variable {outcome : Except Failure ActionResult}

theorem failed {message : String} {metadata : Dict} (filled : isBlankText message = false)
    (keyed : metadata.KeyedByText) : Accounted (ActionResult.failed message metadata) := by
  rw [ActionResult.failed_of_filled filled keyed]
  simp [Accounted, ActionResult.tells, ActionResult.isMessage, filled]

theorem bind {α : Type} {first : Except Failure α} {next : α → Except Failure ActionResult}
    (fails : FailsOnly (·.tells = true) first) (accounted : ∀ value, Accounted (next value)) :
    Accounted (first >>= next) := by
  cases first with
  | error failure => exact fails failure rfl
  | ok value => exact accounted value

end Accounted

namespace HttpAction

variable {sending : Sending}

variable {σ : Type} {world : World σ} {context : Context} {now : Time.Timestamp}

/-- What an action that sends requests replies, by what the server failed with. -/
structure Answers (exchanges : List Request.Answered) (reply : Except Failure Reply) : Prop where
  failure : ∀ request failure, ⟨.http request, .failure failure⟩ ∈ exchanges →
    reply = contained (.error failure)
  unreached : ∀ request message, ⟨.http request, .unreached message⟩ ∈ exchanges →
    ∃ metadata, reply =
      .ok (.result ⟨false, some s!"HTTP request exception: {message}", [], metadata⟩)
  otherwise : (∀ request failure, ⟨.http request, .failure failure⟩ ∈ exchanges →
      failure.tells = true) →
    ∃ result, reply = .ok (.result result) ∧ result.tells = true

end HttpAction

/-! ## Every carrying out -/

/-- A procedure ends, and wherever it ends its exchanges and its value are of one kind. -/
def Proc.ComesTo {α σ : Type} (world : World σ) (proc : Proc α) (state : σ)
    (holds : List Request.Answered → α → Prop) : Prop :=
  (∃ exchanges value final, Ends world proc state exchanges value final) ∧
    ∀ {exchanges value final}, Ends world proc state exchanges value final → holds exchanges value

/-- Whether a plan is to send a request. -/
def HttpAction.Plan.sends : HttpAction.Plan → Bool
  | .send _ => true
  | .refuse _ => false

/-- A context for a request to a place. -/
def Context.asking : Context :=
  ⟨"w", "ask", [], Dict.ofFields [("url", .text "http://x.test/")], none, default⟩

end Workflow
