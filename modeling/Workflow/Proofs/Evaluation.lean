import Workflow.Condition
import Workflow.Proofs.Reading

/-!
# How evaluation fails

A condition has a truth value, or is refused as a condition that has none.  One other failure gets
through: a whole number that a condition depends on may not be read.  Numbers are read in three
places, and each of them lets through texts that are not read in the end: an index of a path, which
is taken for one by its dashes and digits of any kind, a numeral in the condition, and a text in the
data that is compared as a number.
-/

namespace Workflow

open Number

/-- A numeral without a point that has more digits than are read. -/
def Number.Numeral.TooLong (numeral : Numeral) : Prop :=
  numeral.fraction = none ∧ digitLimit < numeral.whole.length

/-! ## Paths -/

namespace Path

/-- Parts of a path lead to a list, and the part after them is taken for an index, but is not read
as a number. -/
def Misleads (value : Value) (parts : List String) (error : IntegerError) : Prop :=
  ∃ before part after items, parts = before ++ part :: after ∧
    (descend? value before = .ok (some (.list items)) ∨
      descend? value before = .ok (some (.group items))) ∧
    isIndex part = true ∧ readInteger part = .error error

/-- Only an index of a list is read as a number. -/
theorem child?_eq_error {value : Value} {part : String} {error : IntegerError}
    (fails : child? value part = .error error) :
    (∃ items, value = .list items ∨ value = .group items) ∧ isIndex part = true ∧
      readInteger part = .error error := by
  have list : ∀ items : List Value, child? (.list items) part = .error error →
      isIndex part = true ∧ readInteger part = .error error := by
    intro items fails
    simp only [child?] at fails
    split at fails
    · next index =>
        rcases then_eq_error.mp fails with refused | ⟨place, _, found⟩
        · exact ⟨index, refused⟩
        · cases found
    · cases fails
  cases value with
  | list items => exact ⟨⟨items, .inl rfl⟩, list items fails⟩
  | group items => exact ⟨⟨items, .inr rfl⟩, list items fails⟩
  | scalar | set | dict | loop => cases fails

theorem descend?_eq_error {value : Value} {parts : List String} {error : IntegerError}
    (fails : descend? value parts = .error error) : Misleads value parts error := by
  induction parts generalizing value with
  | nil => cases fails
  | cons part rest ih =>
      rcases then_eq_error.mp fails with refused | ⟨inner, holds, fails⟩
      · rcases child?_eq_error refused with ⟨⟨items, rfl | rfl⟩, index, refused⟩
        · exact ⟨[], part, rest, items, rfl, .inl rfl, index, refused⟩
        · exact ⟨[], part, rest, items, rfl, .inr rfl, index, refused⟩
      · cases inner with
        | none => cases fails
        | some inner =>
            rcases ih fails with ⟨before, later, after, items, rfl, leads, refused⟩
            refine ⟨part :: before, later, after, items, rfl, ?_, refused⟩
            simp only [descend?, holds]
            exact leads

end Path

namespace Condition

/-! ## Operands -/

theorem numeralValue_eq_error {numeral : Numeral} {error : IntegerError} :
    numeralValue numeral = .error error ↔
      numeral.TooLong ∧ error = .tooLong numeral.whole.length := by
  simp only [numeralValue, Numeral.TooLong]
  cases numeral.fraction with
  | some fraction => simp
  | none =>
      simp only [true_and]
      split
      · next long => simp [long, eq_comm]
      · next short => simp [short]

/-- The parts of a condition that may stand for values: the two sides of a comparison, or the whole
of it. -/
def operands (expression : String) : List (List Char) :=
  let text := Text.trim expression.toList
  match split? text with
  | some (left, _, right) => [Text.trim left, Text.trim right]
  | none => [text]

/-- A whole number that a condition depends on and that is not read. -/
inductive Unreadable (expression : String) (data : Value) : IntegerError → Prop where
  /-- An operand is a path that leads into a list by what is no index. -/
  | index {operand : List Char} {error : IntegerError} :
      operand ∈ operands expression →
      Path.Misleads data (Path.parts (String.ofList operand)) error →
      Unreadable expression data error
  /-- An operand is a numeral. -/
  | numeral {operand : List Char} {numeral : Numeral} :
      operand ∈ operands expression → Numeral.read? operand = some numeral → numeral.TooLong →
      Unreadable expression data (.tooLong numeral.whole.length)
  /-- An operand stands for a text that is a numeral. -/
  | text {operand : List Char} {bareWords : Bool} {text : String} {numeral : Numeral} :
      operand ∈ operands expression → operandValue operand data bareWords = .ok (.text text) →
      Numeral.read? (Text.trim text.toList) = some numeral → numeral.TooLong →
      Unreadable expression data (.tooLong numeral.whole.length)

theorem unreadable_of_operand {expression : String} {data : Value} {operand : List Char}
    {bareWords : Bool} {error : IntegerError} (among : operand ∈ operands expression)
    (fails : operandValue operand data bareWords = .error error) :
    Unreadable expression data error := by
  unfold operandValue at fails
  split at fails
  · cases fails
  · split at fails
    · next numeral reads =>
        cases value : numeralValue numeral with
        | ok scalar =>
            rw [value] at fails
            cases fails
        | error other =>
            rw [value] at fails
            cases fails
            rcases numeralValue_eq_error.mp value with ⟨long, rfl⟩
            exact .numeral among reads long
    · simp only at fails
      split at fails
      · cases fails
      · rcases then_eq_error.mp fails with refused | ⟨found, _, given⟩
        · exact Unreadable.index among (Path.descend?_eq_error refused)
        · cases found <;> cases given

/-! ## Comparisons -/

/-- Only texts that are numerals are refused as numbers. -/
theorem asNumber?_eq_error {value : Value} {error : IntegerError}
    (fails : asNumber? value = .error error) :
    ∃ text numeral, value = .text text ∧ Numeral.read? (Text.trim text.toList) = some numeral ∧
      numeral.TooLong ∧ error = .tooLong numeral.whole.length := by
  unfold asNumber? at fails
  split at fails
  · cases fails
  · cases fails
  · next text =>
      split at fails
      · next numeral reads =>
          cases read : numeralValue numeral with
          | ok scalar =>
              rw [read] at fails
              cases fails
          | error other =>
              rw [read] at fails
              cases fails
              rcases numeralValue_eq_error.mp read with ⟨long, same⟩
              exact ⟨text, numeral, rfl, reads, long, same⟩
      · cases fails
  · cases fails

/-- What two values are compared by is not read. -/
def NotNumbers (left right : Value) (error : IntegerError) : Prop :=
  asNumber? left = .error error ∨ asNumber? right = .error error

theorem bothNumbers?_eq_error {left right : Value} {error : IntegerError}
    (fails : bothNumbers? left right = .error error) : NotNumbers left right error := by
  rcases then_eq_error.mp fails with refused | ⟨left?, _, fails⟩
  · exact .inl refused
  · rcases then_eq_error.mp fails with refused | ⟨right?, _, given⟩
    · exact .inr refused
    · cases left? <;> cases right? <;> cases given

theorem looselyEqual_eq_error {left right : Value} {error : IntegerError}
    (fails : looselyEqual left right = .error error) : NotNumbers left right error := by
  unfold looselyEqual at fails
  split at fails
  · cases fails
  · cases fails
  · cases fails
  · cases fails
  · rcases then_eq_error.mp fails with refused | ⟨numbers, _, given⟩
    · exact bothNumbers?_eq_error refused
    · cases numbers <;> cases given
  · split at fails
    · rcases then_eq_error.mp fails with refused | ⟨numbers, _, given⟩
      · exact bothNumbers?_eq_error refused
      · cases numbers <;> cases given
    · cases fails

/-- How a comparison of two values may fail: they have no order, or one of them is not read. -/
def Incomparable (left right : Value) (failure : Failure) : Prop :=
  (∃ error, failure = .evaluation error) ∨
    ∃ error, failure = .integer error ∧ NotNumbers left right error

theorem order?_eq_error {left right expression : Value} {failure : Failure}
    (fails : order? left right expression = .error failure) :
    Incomparable left right failure := by
  unfold order? at fails
  split at fails
  · next error refused =>
      cases fails
      exact .inr ⟨error, rfl, bothNumbers?_eq_error refused⟩
  · cases fails
  · cases fails
  · cases fails
    exact .inl ⟨_, rfl⟩

theorem compare_eq_error {left right expression : Value} {operator : Operator} {failure : Failure}
    (fails : compare left operator right expression = .error failure) :
    Incomparable left right failure := by
  cases operator with
  | is | isNot => cases fails
  | equal =>
      rcases mapError_eq_error.mp fails with ⟨error, refused, rfl⟩
      exact .inr ⟨error, rfl, looselyEqual_eq_error refused⟩
  | notEqual =>
      rcases mapError_eq_error.mp fails with ⟨error, refused, rfl⟩
      refine .inr ⟨error, rfl, looselyEqual_eq_error ?_⟩
      cases equal : looselyEqual left right with
      | ok holds =>
          rw [equal] at refused
          cases refused
      | error error =>
          rw [equal] at refused
          cases refused
          rfl
  | greater | less | greaterEqual | lessEqual =>
      rcases then_eq_error.mp fails with refused | ⟨found, _, given⟩
      · exact order?_eq_error refused
      · cases given

/-! ## Conditions -/

/-- A value that an operand stands for is refused as a number because of what the condition or the
data hold. -/
theorem unreadable_of_value {expression : String} {data : Value} {operand : List Char}
    {bareWords : Bool} {value : Value} {error : IntegerError}
    (among : operand ∈ operands expression)
    (stands : operandValue operand data bareWords = .ok value)
    (fails : asNumber? value = .error error) : Unreadable expression data error := by
  rcases asNumber?_eq_error fails with ⟨text, numeral, rfl, reads, long, rfl⟩
  exact .text among stands reads long

theorem evaluateText_eq_error {expression : String} {data : Value} {failure : Failure}
    (fails : evaluateText expression data = .error failure) :
    (∃ error, failure = .evaluation error) ∨
      ∃ error, failure = .integer error ∧ Unreadable expression data error := by
  unfold evaluateText at fails
  simp only at fails
  split at fails
  · cases fails
    exact .inl ⟨_, rfl⟩
  split at fails
  · next left operator right splits =>
      have left_mem : Text.trim left ∈ operands expression := by simp [operands, splits]
      have right_mem : Text.trim right ∈ operands expression := by simp [operands, splits]
      split at fails
      · cases fails
        exact .inl ⟨_, rfl⟩
      rcases then_eq_error.mp fails with refused | ⟨leftValue, stands, fails⟩
      · rcases mapError_eq_error.mp refused with ⟨error, unread, rfl⟩
        exact .inr ⟨error, rfl, unreadable_of_operand left_mem unread⟩
      rcases then_eq_error.mp fails with refused | ⟨rightValue, stands', fails⟩
      · rcases mapError_eq_error.mp refused with ⟨error, unread, rfl⟩
        exact .inr ⟨error, rfl, unreadable_of_operand right_mem unread⟩
      rcases compare_eq_error fails with unordered | ⟨error, rfl, refused | refused⟩
      · exact .inl unordered
      · exact .inr ⟨error, rfl, unreadable_of_value left_mem (mapError_eq_ok.mp stands) refused⟩
      · exact .inr ⟨error, rfl, unreadable_of_value right_mem (mapError_eq_ok.mp stands') refused⟩
  · next whole =>
      have mem : Text.trim expression.toList ∈ operands expression := by simp [operands, whole]
      split at fails
      · cases fails
      split at fails
      · cases fails
      split at fails
      · cases fails
        exact .inl ⟨_, rfl⟩
      rcases then_eq_error.mp fails with refused | ⟨found, _, given⟩
      · rcases mapError_eq_error.mp refused with ⟨error, unread, rfl⟩
        exact .inr ⟨error, rfl, Unreadable.index mem (Path.descend?_eq_error unread)⟩
      · cases given

/-- Whatever a condition is and whatever the data hold, it has a truth value, or it is refused as a
condition, or a whole number that it depends on is not read. -/
theorem evaluate_outcome (expression : Value) (data : Dict) :
    (∃ holds, evaluate expression (.dict data) = .ok holds) ∨
      (∃ error, evaluate expression (.dict data) = .error (.evaluation error)) ∨
      ∃ text error, expression = .text text ∧ Unreadable text (.dict data) error ∧
        evaluate expression (.dict data) = .error (.integer error) := by
  have whole : (if (Value.dict data).truthy then Value.dict data else .dict []) = .dict data := by
    cases data <;> rfl
  cases gives : evaluate expression (.dict data) with
  | ok holds => exact .inl ⟨holds, rfl⟩
  | error failure =>
      unfold evaluate at gives
      split at gives
      · next text =>
          rw [whole] at gives
          rcases evaluateText_eq_error gives with ⟨error, rfl⟩ | ⟨error, rfl, unreadable⟩
          · exact .inr (.inl ⟨error, rfl⟩)
          · exact .inr (.inr ⟨text, error, rfl, unreadable, rfl⟩)
      · cases gives
        exact .inr (.inl ⟨_, rfl⟩)

/-- Whether evaluation gave a truth value or refused the condition. -/
def isSettled : Except Failure Bool → Bool
  | .ok _ | .error (.workflow (.evaluation _)) => true
  | .error _ => false

/-- A path whose index is written with two dashes is no number, and yet no refused condition. -/
theorem evaluate_dashed_index :
    let outcome := evaluate (.text "items.--1") (.dict (Dict.ofFields [("items", .list [.int 1])]))
    ¬ ((∃ holds, outcome = .ok holds) ∨ ∃ error, outcome = .error (.evaluation error)) := by
  intro outcome
  have unsettled : isSettled outcome = false := by decide +kernel
  rintro (⟨holds, given⟩ | ⟨error, given⟩)
  · rw [given] at unsettled
    cases unsettled
  · rw [given] at unsettled
    cases unsettled

end Condition

end Workflow
