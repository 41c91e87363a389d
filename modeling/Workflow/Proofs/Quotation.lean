import Mathlib.Data.Option.Basic
import Workflow.Proofs.Evaluation

/-!
# Operands in quotes

An operand with operator characters in it is refused, unless it stands in quotes.  It is taken to
stand in quotes when it begins and ends with one kind of quote, whatever comes between.  So the
right side of two comparisons that are joined by a word is one quoted text, if both values are
quoted alike: such a condition is not refused, but compares the first path with all the rest.
-/

namespace Workflow.Condition

/-- A text that begins and ends with one kind of quote. -/
def Enclosed (cs : List Char) : Prop :=
  ∃ quote inner, (quote = '"' ∨ quote = '\'') ∧ cs = quote :: (inner ++ [quote])

/-- An operand with operator characters in it that does not begin and end with one kind of quote. -/
def Stray (operand : List Char) : Prop :=
  (∃ c ∈ Text.trim operand, isOperatorChar c = true) ∧ ¬ Enclosed (Text.trim operand)

theorem unquote?_eq_some {cs inner : List Char} :
    unquote? cs = some inner ↔
      ∃ quote, (quote = '"' ∨ quote = '\'') ∧ cs = quote :: (inner ++ [quote]) := by
  constructor
  · intro given
    cases cs with
    | nil => cases given
    | cons quote rest =>
        simp only [unquote?] at given
        split at given
        · next enclosed =>
            simp only [Bool.and_eq_true, Bool.or_eq_true, decide_eq_true_eq, beq_iff_eq] at enclosed
            obtain ⟨kind, last⟩ := enclosed
            obtain ⟨before, rfl⟩ := List.getLast?_eq_some_iff.mp last
            refine ⟨quote, kind, ?_⟩
            simpa using given
        · cases given
  · intro enclosed
    obtain ⟨quote, kind, rfl⟩ := enclosed
    simp [unquote?, kind]

theorem isNone_unquote?_iff {cs : List Char} : (unquote? cs).isNone = true ↔ ¬ Enclosed cs := by
  constructor
  · intro none enclosed
    obtain ⟨quote, inner, kind, same⟩ := enclosed
    have some : unquote? cs = some inner := unquote?_eq_some.mpr ⟨quote, kind, same⟩
    simp [some] at none
  · intro bare
    cases inside : unquote? cs with
    | none => rfl
    | some inner =>
        obtain ⟨quote, kind, same⟩ := unquote?_eq_some.mp inside
        exact absurd ⟨quote, inner, kind, same⟩ bare

theorem isStray_iff {operand : List Char} : isStray operand = true ↔ Stray operand := by
  simp only [isStray, Stray, Bool.and_eq_true, isNone_unquote?_iff, List.any_eq_true]
  exact and_comm

/-! ## Where a comparison is parted -/

theorem after?_eq_some {start cs rest : List Char} :
    after? start cs = some rest ↔ cs = start ++ rest := by
  induction start generalizing cs with
  | nil => simp [after?]
  | cons expected start ih =>
      cases cs with
      | nil => simp [after?]
      | cons c cs =>
          simp only [after?, List.cons_append, List.cons.injEq]
          split
          · next same => simp [ih, same]
          · next other => simp [Ne.symm other]

theorem trimStart_eq_self {cs : List Char}
    (begins : ∀ c, cs.head? = some c → Text.isBlank c = false) : Text.trimStart cs = cs := by
  cases cs with
  | nil => rfl
  | cons c rest => simp [Text.trimStart, begins c rfl]

theorem trimStart_gap {gap cs : List Char} (blank : ∀ c ∈ gap, Text.isBlank c = true)
    (begins : ∀ c, cs.head? = some c → Text.isBlank c = false) :
    Text.trimStart (gap ++ cs) = cs := by
  rw [Text.trimStart, List.dropWhile_append_of_pos blank]
  exact trimStart_eq_self begins

theorem head?_symbol (operator : Operator) (cs : List Char) (c : Char)
    (first : (operator.symbol.toList ++ cs).head? = some c) : Text.isBlank c = false := by
  cases operator <;> cases first <;> decide

theorem split?_word {left cs right : List Char} {operator : Operator} {gap : Char}
    (nonempty : left ≠ []) (word : ∀ c ∈ left, Text.isBlank c = false)
    (blank : Text.isBlank gap = true)
    (parted : operatorAt? (Text.trimStart (gap :: cs)) = some (operator, right)) :
    split? (left ++ gap :: cs) = some (left, operator, right) := by
  induction left with
  | nil => exact absurd rfl nonempty
  | cons c rest ih =>
      cases rest with
      | nil => simp [split?, blank, parted]
      | cons next rest =>
          have inside : Text.isBlank next = false := word next (by simp)
          have later := ih (by simp) (fun other member => word other (by simp [member]))
          simp only [List.cons_append] at later ⊢
          simp [split?, inside, later]

/-- A right operand that would make the word before it the start of another operator. -/
def Negates (right : List Char) : Prop :=
  ∃ gap rest, Text.isBlank gap = true ∧ right = 'n' :: 'o' :: 't' :: gap :: rest

theorem not_blank_after_isNot {gap : Char} {gaps right rest : List Char}
    (blanks : ∀ c ∈ gaps, Text.isBlank c = true) (apart : ¬ Negates right)
    (negated : Operator.is.symbol.toList ++ gap :: (gaps ++ right) =
      Operator.isNot.symbol.toList ++ rest) :
    rest.head?.any Text.isBlank = false := by
  have tail : gaps ++ right = 'n' :: 'o' :: 't' :: rest := by
    simp only [Operator.symbol, String.reduceToList, List.cons_append, List.nil_append,
      List.cons.injEq, true_and] at negated
    exact negated.2
  cases gaps with
  | cons other gaps =>
      have first : other = 'n' := (List.cons.inj tail).1
      exact absurd (blanks other List.mem_cons_self) (by rw [first]; decide)
  | nil =>
      cases rest with
      | nil => rfl
      | cons c rest =>
          cases blank : Text.isBlank c with
          | false => simp [blank]
          | true => exact absurd ⟨c, rest, blank, tail⟩ apart

/-- An operator with white space after it is the one that is found, except that a word which goes
on is read to its end. -/
theorem operatorAt?_symbol {operator : Operator} {gap : Char} {gaps right : List Char}
    (blank : Text.isBlank gap = true) (blanks : ∀ c ∈ gaps, Text.isBlank c = true)
    (nonempty : right ≠ []) (begins : ∀ c, right.head? = some c → Text.isBlank c = false)
    (apart : operator = .is → ¬ Negates right) :
    operatorAt? (operator.symbol.toList ++ gap :: (gaps ++ right)) = some (operator, right) := by
  have trims : Text.trimStart (gap :: (gaps ++ right)) = right := by
    rw [← List.cons_append]
    apply trimStart_gap _ begins
    intro c member
    cases member with
    | head => exact blank
    | tail _ member => exact blanks c member
  have other : gap ≠ '=' := by
    rintro rfl
    exact absurd blank (by decide)
  cases operator with
  | is =>
      have reads : after? Operator.is.symbol.toList
          (Operator.is.symbol.toList ++ gap :: (gaps ++ right)) = some (gap :: (gaps ++ right)) :=
        after?_eq_some.mpr rfl
      have goesOn : ∀ rest, after? Operator.isNot.symbol.toList
          (Operator.is.symbol.toList ++ gap :: (gaps ++ right)) = some rest →
            rest.head?.any Text.isBlank = false :=
        fun rest negated => not_blank_after_isNot blanks (apart rfl) (after?_eq_some.mp negated)
      simp only [operatorAt?, Operator.all, List.findSome?_cons, reads]
      cases negated : after? Operator.isNot.symbol.toList
          (Operator.is.symbol.toList ++ gap :: (gaps ++ right)) with
      | none => simp [guard, blank, trims, nonempty]
      | some rest => simp [guard, goesOn rest negated, blank, trims, nonempty]
  | _ =>
      simp only [operatorAt?, Operator.all, List.findSome?_cons, Operator.symbol,
        String.reduceToList]
      simp [after?, guard, blank, trims, nonempty, Ne.symm other]

/-- The signs: the operators that are no words. -/
def IsSign (operator : Operator) : Prop :=
  operator ≠ .is ∧ operator ≠ .isNot

/-! ## Conditions that are refused as malformed -/

theorem order?_eq_evaluation {left right expression : Value} {error : EvaluationError}
    (fails : order? left right expression = .error (.evaluation error)) :
    error = .unordered left right expression := by
  unfold order? at fails
  split at fails
  · cases fails
  · cases fails
  · cases fails
  · cases fails
    rfl

/-- A comparison of two values is refused only because they have no order. -/
theorem compare_eq_evaluation {left right expression : Value} {operator : Operator}
    {error : EvaluationError}
    (fails : compare left operator right expression = .error (.evaluation error)) :
    error = .unordered left right expression := by
  cases operator with
  | is | isNot => cases fails
  | equal | notEqual =>
      obtain ⟨cause, _, same⟩ := mapError_eq_error.mp fails
      cases same
  | greater | less | greaterEqual | lessEqual =>
      cases then_eq_error.mp fails with
      | inl refused => exact order?_eq_evaluation refused
      | inr ordered =>
          obtain ⟨_, _, given⟩ := ordered
          cases given

theorem evaluate_text (expression : String) (data : Dict) :
    evaluate (.text expression) (.dict data) = evaluateText expression (.dict data) := by
  cases data with
  | nil => rfl
  | cons => rfl

/-- The value of a comparison whose operands are told apart. -/
theorem evaluateText_parted {expression : String} {data : Value} {left right : List Char}
    {operator : Operator}
    (parted : split? (Text.trim expression.toList) = some (left, operator, right)) :
    evaluateText expression data =
      let shown := String.ofList (Text.trim expression.toList)
      if isStray left || isStray right then .error (.evaluation (.malformed shown shown))
      else (do
        let leftValue ← (operandValue (Text.trim left) data false).mapError Failure.integer
        let rightValue ← (operandValue (Text.trim right) data true).mapError Failure.integer
        compare leftValue operator rightValue (.text shown)) := by
  have nonempty : (Text.trim expression.toList).isEmpty = false := by
    cases text : Text.trim expression.toList with
    | nil =>
        rw [text] at parted
        cases parted
    | cons => rfl
  simp [evaluateText, parted, nonempty]

/-- A comparison is refused as malformed exactly when one of its operands is stray. -/
theorem evaluate_malformed_iff {expression : String} {data : Dict} {left right : List Char}
    {operator : Operator}
    (parted : split? (Text.trim expression.toList) = some (left, operator, right)) :
    (∃ shown, evaluate (.text expression) (.dict data) =
        .error (.evaluation (.malformed shown shown))) ↔ Stray left ∨ Stray right := by
  have strays : (isStray left || isStray right) = true ↔ Stray left ∨ Stray right := by
    simp [isStray_iff]
  rw [evaluate_text, evaluateText_parted parted, ← strays]
  constructor
  · intro refused
    obtain ⟨shown, refused⟩ := refused
    cases stray : isStray left || isStray right with
    | true => rfl
    | false =>
        simp only [stray, Bool.false_eq_true, if_false] at refused
        cases then_eq_error.mp refused with
        | inl unread =>
            obtain ⟨cause, _, same⟩ := mapError_eq_error.mp unread
            cases same
        | inr refused =>
            obtain ⟨leftValue, _, refused⟩ := refused
            cases then_eq_error.mp refused with
            | inl unread =>
                obtain ⟨cause, _, same⟩ := mapError_eq_error.mp unread
                cases same
            | inr refused =>
                obtain ⟨rightValue, _, refused⟩ := refused
                cases compare_eq_evaluation refused
  · intro stray
    exact ⟨_, if_pos stray⟩

/-- An operand that begins and ends with one kind of quote stands for the text between them. -/
theorem evaluate_enclosed {expression : String} {data : Dict} {left right inner : List Char}
    {operator : Operator}
    (parted : split? (Text.trim expression.toList) = some (left, operator, right))
    (fits : ¬ Stray left) (quoted : unquote? (Text.trim right) = some inner) :
    evaluate (.text expression) (.dict data) =
      (do
        let value ← (operandValue (Text.trim left) (.dict data) false).mapError Failure.integer
        compare value operator (.text (String.ofList inner))
          (.text (String.ofList (Text.trim expression.toList)))) := by
  have bare : isStray left = false := by
    rw [← Bool.not_eq_true, isStray_iff]
    exact fits
  have inside : isStray right = false := by simp [isStray, quoted]
  have stands : operandValue (Text.trim right) (.dict data) true =
      .ok (.text (String.ofList inner)) := by simp [operandValue, quoted]
  rw [evaluate_text, evaluateText_parted parted]
  simp only [bare, inside, stands, Bool.or_self, Bool.false_eq_true, if_false]
  rfl

/-! ## Two comparisons joined by a word -/

/-- A comparison of a path with a text in quotes. -/
structure Quotation where
  path : String
  operator : Operator
  value : String

/-- How a comparison with a text in quotes is written. -/
def Quotation.text (quotation : Quotation) : String :=
  quotation.path ++ " " ++ quotation.operator.symbol ++ " \"" ++ quotation.value ++ "\""

/-- How two comparisons are written with a word between them. -/
def compound (first : Quotation) (word : String) (second : Quotation) : String :=
  first.text ++ " " ++ word ++ " " ++ second.text

/-- What stands between the first quote and the last one of two comparisons. -/
def betweenQuotes (first : Quotation) (word : String) (second : Quotation) : String :=
  first.value ++ "\" " ++ word ++ " " ++ second.path ++ " " ++ second.operator.symbol ++ " \"" ++
    second.value

/-- A path without white space and operator characters. -/
def IsPlain (path : String) : Prop :=
  path ≠ "" ∧ ∀ c ∈ path.toList, Text.isBlank c = false ∧ isOperatorChar c = false

theorem toList_compound (first : Quotation) (word : String) (second : Quotation) :
    (compound first word second).toList =
      first.path.toList ++ ' ' :: (first.operator.symbol.toList ++
        ' ' :: '"' :: ((betweenQuotes first word second).toList ++ ['"'])) := by
  simp [compound, Quotation.text, betweenQuotes]

theorem compound_parted {first : Quotation} (plain : IsPlain first.path)
    (sign : IsSign first.operator) (word : String) (second : Quotation) :
    split? (compound first word second).toList =
      some (first.path.toList, first.operator,
        '"' :: ((betweenQuotes first word second).toList ++ ['"'])) := by
  obtain ⟨nonempty, plain⟩ := plain
  let right := '"' :: ((betweenQuotes first word second).toList ++ ['"'])
  have blank : Text.isBlank ' ' = true := by decide
  have begins : ∀ c, right.head? = some c → Text.isBlank c = false := by
    intro c quote
    cases quote
    decide
  have read : operatorAt? (first.operator.symbol.toList ++ ' ' :: right) =
      some (first.operator, right) :=
    operatorAt?_symbol blank (List.forall_mem_nil _) (List.cons_ne_nil _ _) begins
      (fun is => absurd is sign.1)
  rw [toList_compound]
  apply split?_word _ _ blank
  · rw [← List.singleton_append, trimStart_gap (by simp [blank]) (head?_symbol first.operator _)]
    exact read
  · simpa using nonempty
  · intro c member
    exact (plain c member).1

theorem trim_eq_self {cs : List Char} (begins : ∀ c, cs.head? = some c → Text.isBlank c = false)
    (ends : ∀ c, cs.getLast? = some c → Text.isBlank c = false) : Text.trim cs = cs := by
  have reversed : Text.trimStart cs.reverse = cs.reverse := by
    apply trimStart_eq_self
    intro c last
    exact ends c (by simpa using last)
  simp [Text.trim, Text.trimEnd, trimStart_eq_self begins, reversed]

theorem trim_plain {path : String} (plain : IsPlain path) :
    Text.trim path.toList = path.toList := by
  apply trim_eq_self
  · intro c first
    exact (plain.2 c (List.mem_of_head? first)).1
  · intro c last
    exact (plain.2 c (List.mem_of_getLast? last)).1

theorem not_stray_plain {path : String} (plain : IsPlain path) : ¬ Stray path.toList := by
  intro stray
  obtain ⟨c, member, operator⟩ := stray.1
  rw [trim_plain plain] at member
  rw [(plain.2 c member).2] at operator
  cases operator

theorem trim_enclosed (inner : List Char) :
    Text.trim ('"' :: (inner ++ ['"'])) = '"' :: (inner ++ ['"']) := by
  apply trim_eq_self
  · intro c first
    cases first
    decide
  · intro c last
    rw [← List.cons_append, List.getLast?_concat] at last
    cases last
    decide

theorem trim_compound {first : Quotation} (plain : IsPlain first.path) (word : String)
    (second : Quotation) :
    Text.trim (compound first word second).toList = (compound first word second).toList := by
  cases path : first.path.toList with
  | nil => exact absurd (String.toList_eq_nil_iff.mp path) plain.1
  | cons c rest =>
      rw [toList_compound, path]
      apply trim_eq_self
      · intro first begins
        cases begins
        exact (plain.2 c (by simp [path])).1
      · intro last ends
        simp only [← List.cons_append, ← List.append_assoc, List.getLast?_concat] at ends
        cases ends
        decide

/-- A condition is refused as malformed exactly when an operand has operator characters in it and
does not begin and end with one kind of quote.  So two comparisons with quoted values that are
joined by a word are one comparison: of the first path with the text between the first quote and
the last. -/
theorem evaluate_compound (expression : String) (data : Dict) :
    (∀ (left right : List Char) (operator : Operator),
      split? (Text.trim expression.toList) = some (left, operator, right) →
        ((∃ shown, evaluate (.text expression) (.dict data) =
          .error (.evaluation (.malformed shown shown))) ↔ Stray left ∨ Stray right)) ∧
    ∀ (first : Quotation) (word : String) (second : Quotation),
      expression = compound first word second → IsPlain first.path → IsSign first.operator →
        evaluate (.text expression) (.dict data) =
          (do
            let value ← (operandValue first.path.toList (.dict data) false).mapError Failure.integer
            compare value first.operator (.text (betweenQuotes first word second))
              (.text expression)) := by
  constructor
  · intro left right operator parted
    exact evaluate_malformed_iff parted
  · intro first word second compounded plain sign
    subst compounded
    have trimmed := trim_compound plain word second
    have parted := compound_parted plain sign word second
    have quoted :
        unquote? (Text.trim ('"' :: ((betweenQuotes first word second).toList ++ ['"']))) =
          some (betweenQuotes first word second).toList := by
      rw [trim_enclosed]
      exact unquote?_eq_some.mpr ⟨'"', .inl rfl, rfl⟩
    rw [← trimmed] at parted
    rw [evaluate_enclosed parted (not_stray_plain plain) quoted, trimmed, trim_plain plain]
    simp only [String.ofList_toList]

/-- Two comparisons that hold of the data that they are evaluated on. -/
def goldInEurope : String :=
  compound ⟨"tier", .equal, "gold"⟩ "and" ⟨"region", .equal, "eu"⟩

/-- Data of which two comparisons hold. -/
def goldData : Dict :=
  Dict.ofFields [("tier", .text "gold"), ("region", .text "eu")]

theorem evaluate_compound_goldInEurope :
    (split? (Text.trim "amount = = 100".toList) = some ("amount".toList, .equal, "= 100".toList) ∧
      ((∃ shown, evaluate (.text "amount = = 100") (.dict []) =
        .error (.evaluation (.malformed shown shown))) ↔
          Stray "amount".toList ∨ Stray "= 100".toList)) ∧
    IsPlain "tier" ∧ IsSign .equal ∧
      evaluate (.text goldInEurope) (.dict goldData) =
        (do
          let value ← (operandValue "tier".toList (.dict goldData) false).mapError Failure.integer
          compare value .equal (.text "gold\" and region = \"eu") (.text goldInEurope)) := by
  have parted : split? (Text.trim "amount = = 100".toList) =
      some ("amount".toList, .equal, "= 100".toList) := by decide +kernel
  have plain : IsPlain "tier" := by
    constructor
    · decide
    · intro c member
      have letters : "tier".toList = ['t', 'i', 'e', 'r'] := rfl
      simp only [letters, List.mem_cons, List.not_mem_nil, or_false] at member
      obtain rfl | rfl | rfl | rfl := member <;> decide
  have sign : IsSign .equal := ⟨by decide, by decide⟩
  constructor
  · exact ⟨parted, (evaluate_compound "amount = = 100" []).1 _ _ _ parted⟩
  · have misread := (evaluate_compound goldInEurope goldData).2
      ⟨"tier", .equal, "gold"⟩ "and" ⟨"region", .equal, "eu"⟩ rfl plain sign
    exact ⟨plain, sign, misread⟩

/-- Two comparisons that both hold are not refused when a word joins them, and come out false. -/
theorem evaluate_goldInEurope_false :
    evaluate (.text goldInEurope) (.dict goldData) = .ok false ∧
      ¬ ∃ error, evaluate (.text goldInEurope) (.dict goldData) = .error (.evaluation error) := by
  have misread : evaluate (.text goldInEurope) (.dict goldData) = .ok false := by rfl
  constructor
  · exact misread
  · intro refused
    obtain ⟨error, refused⟩ := refused
    rw [misread] at refused
    cases refused

end Workflow.Condition
