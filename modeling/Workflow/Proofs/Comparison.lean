import Mathlib.Data.List.Basic
import Mathlib.Tactic.MkIffOfInductiveProp
import Workflow.Proofs.Quotation

/-!
# Where a comparison is split

A comparison is split at its first operator.  The operator needs white space on both sides and an
operand before and after it, so a left operand without white space ends where the first white space
begins, whatever operators, quotes or line ends the right operand holds.  Of two operators that
begin alike the longer one is read: the white space after an operator keeps `>` apart from `>=`,
and only `is` goes on, into `is not`.  What stands on the two sides is then refused or resolved,
and the resolved values are compared.
-/

namespace Workflow

/-! ## Data that is absent -/

namespace Condition

/-- A comparison as it is written: two operands, the operator between them, and what stands on both
sides of the operator. -/
structure Comparison where
  left : String
  before : String
  operator : Operator
  after : String
  right : String

namespace Comparison

/-- The text of a comparison. -/
def text (comparison : Comparison) : String :=
  comparison.left ++ comparison.before ++ comparison.operator.symbol ++ comparison.after ++
    comparison.right

/-- White space and nothing else stands around the operator, the left operand is one word, and the
right operand is any text that neither begins nor ends with white space.  A right operand of `is`
does not begin with `not` and white space. -/
@[mk_iff]
structure Spaced (comparison : Comparison) : Prop where
  word : comparison.left ≠ "" ∧ comparison.left.toList.any Text.isBlank = false
  before : comparison.before ≠ "" ∧ Text.isBlankText comparison.before = true
  after : comparison.after ≠ "" ∧ Text.isBlankText comparison.after = true
  nonempty : comparison.right ≠ ""
  begins : comparison.right.toList.head?.any Text.isBlank = false
  ends : comparison.right.toList.getLast?.any Text.isBlank = false
  apart : comparison.operator = .is → ¬ Negates comparison.right.toList

/-! The conditions on how a comparison is written can be computed. -/

theorem negates_iff {right : List Char} :
    Negates right ↔
      right.take 3 = ['n', 'o', 't'] ∧ (right.drop 3).head?.any Text.isBlank = true := by
  constructor
  · intro negates
    obtain ⟨gap, rest, blank, rfl⟩ := negates
    exact ⟨rfl, blank⟩
  · intro begins
    obtain ⟨word, blank⟩ := begins
    rw [← List.take_append_drop 3 right, word]
    cases follows : right.drop 3 with
    | nil => simp [follows] at blank
    | cons gap rest =>
        refine ⟨gap, rest, ?_, rfl⟩
        simpa [follows] using blank

instance (right : List Char) : Decidable (Negates right) :=
  decidable_of_iff' _ negates_iff

instance (comparison : Comparison) : Decidable comparison.Spaced :=
  decidable_of_iff' _ (spaced_iff comparison)

instance (operand : List Char) : Decidable (Stray operand) :=
  decidable_of_iff _ isStray_iff

variable {comparison : Comparison}

theorem toList_text (comparison : Comparison) :
    comparison.text.toList =
      comparison.left.toList ++ (comparison.before.toList ++ (comparison.operator.symbol.toList ++
        (comparison.after.toList ++ comparison.right.toList))) := by
  simp [text]

namespace Spaced

theorem not_blank_left (spaced : comparison.Spaced) {c : Char}
    (member : c ∈ comparison.left.toList) : Text.isBlank c = false :=
  Bool.eq_false_iff.mpr (List.any_eq_false.mp spaced.word.2 c member)

theorem not_blank_head (spaced : comparison.Spaced) {c : Char}
    (first : comparison.right.toList.head? = some c) : Text.isBlank c = false := by
  have begins := spaced.begins
  rwa [first, Option.any_some] at begins

theorem split? (spaced : comparison.Spaced) :
    split? comparison.text.toList =
      some (comparison.left.toList, comparison.operator, comparison.right.toList) := by
  have left : comparison.left.toList ≠ [] := by simpa using spaced.word.1
  have right : comparison.right.toList ≠ [] := by simpa using spaced.nonempty
  rw [toList_text]
  cases before : comparison.before.toList with
  | nil => exact absurd (String.toList_eq_nil_iff.mp before) spaced.before.1
  | cons gap gaps =>
      cases after : comparison.after.toList with
      | nil => exact absurd (String.toList_eq_nil_iff.mp after) spaced.after.1
      | cons next nexts =>
          have blank : ∀ c ∈ gap :: gaps, Text.isBlank c = true :=
            before ▸ List.all_eq_true.mp spaced.before.2
          have follows : ∀ c ∈ next :: nexts, Text.isBlank c = true :=
            after ▸ List.all_eq_true.mp spaced.after.2
          -- the left operand has no white space, so nothing is found before its end
          apply split?_word left (fun _ => spaced.not_blank_left) (blank gap List.mem_cons_self)
          rw [List.append_eq, ← List.cons_append,
            trimStart_gap blank (head?_symbol comparison.operator _)]
          exact operatorAt?_symbol (follows next List.mem_cons_self)
            (fun c member => follows c (List.mem_cons_of_mem next member)) right
            (fun _ => spaced.not_blank_head) spaced.apart

end Spaced

end Comparison

end Condition

end Workflow
