import Mathlib.Data.List.Infix
import Workflow.Proofs.Comparison

/-!
# Texts in quotes on the left

A comparison is split at its first operator with white space on both sides.  A text in quotes may
hold white space and operators itself, so on the left it is read as one operand as long as no
operator inside the quotes stands between white space.  An operator at either end of the inside is
no exception: there a quote stands next to it.
-/

namespace Workflow.Condition

/-! ## Operators between white space -/

/-- An operator stands in a text with white space on both sides. -/
def HoldsOperator (cs : List Char) : Prop :=
  ∃ before gap operator gap' after, Text.isBlank gap = true ∧ Text.isBlank gap' = true ∧
    cs = before ++ gap :: (Operator.symbol operator).toList ++ gap' :: after

/-- Whether a text begins with an operator and white space. -/
def leadsOperator (cs : List Char) : Bool :=
  Operator.all.any fun operator =>
    (after? operator.symbol.toList cs).any (·.head?.any Text.isBlank)

theorem leadsOperator_iff {cs : List Char} :
    leadsOperator cs = true ↔
      ∃ operator gap after, Text.isBlank gap = true ∧
        cs = (Operator.symbol operator).toList ++ gap :: after := by
  simp only [leadsOperator, List.any_eq_true, Option.any_eq_true, after?_eq_some]
  constructor
  · intro leads
    obtain ⟨operator, _, rest, rfl, gap, first, blank⟩ := leads
    obtain ⟨after, rfl⟩ := List.head?_eq_some_iff.mp first
    exact ⟨operator, gap, after, blank, rfl⟩
  · intro leads
    obtain ⟨operator, gap, after, blank, rfl⟩ := leads
    have known : operator ∈ Operator.all := by cases operator <;> decide
    exact ⟨operator, known, gap :: after, rfl, gap, rfl, blank⟩

theorem holdsOperator_cons {c : Char} {cs : List Char} :
    HoldsOperator (c :: cs) ↔
      (Text.isBlank c = true ∧ leadsOperator cs = true) ∨ HoldsOperator cs := by
  rw [leadsOperator_iff]
  constructor
  · intro holds
    obtain ⟨before, gap, operator, gap', after, blank, blank', whole⟩ := holds
    cases before with
    | nil =>
        obtain ⟨rfl, rfl⟩ := List.cons.inj whole
        exact .inl ⟨blank, operator, gap', after, blank', rfl⟩
    | cons first before =>
        obtain ⟨rfl, rfl⟩ := List.cons.inj whole
        exact .inr ⟨before, gap, operator, gap', after, blank, blank', rfl⟩
  · intro holds
    cases holds with
    | inl leads =>
        obtain ⟨blank, operator, gap', after, blank', rfl⟩ := leads
        exact ⟨[], c, operator, gap', after, blank, blank', rfl⟩
    | inr later =>
        obtain ⟨before, gap, operator, gap', after, blank, blank', rfl⟩ := later
        exact ⟨c :: before, gap, operator, gap', after, blank, blank', rfl⟩

theorem not_holdsOperator_nil : ¬ HoldsOperator [] := by
  rintro ⟨before, gap, operator, gap', after, _, _, whole⟩
  simp at whole

instance decidableHoldsOperator : (cs : List Char) → Decidable (HoldsOperator cs)
  | [] => .isFalse not_holdsOperator_nil
  | _ :: cs =>
    have := decidableHoldsOperator cs
    decidable_of_iff' _ holdsOperator_cons

theorem leadsOperator_of_operatorAt? {cs right : List Char} {operator : Operator}
    (found : operatorAt? cs = some (operator, right)) : leadsOperator cs = true := by
  obtain ⟨other, known, reads⟩ := List.exists_of_findSome?_eq_some found
  obtain ⟨rest, starts, reads⟩ := Option.bind_eq_some_iff.mp reads
  obtain ⟨_, blank, _⟩ := Option.bind_eq_some_iff.mp reads
  have follows : rest.head?.any Text.isBlank = true := by simpa [guard] using blank
  rw [leadsOperator, List.any_eq_true]
  refine ⟨other, known, ?_⟩
  rwa [starts, Option.any_some]

/-- An operator that follows white space is held with it. -/
theorem holdsOperator_of_trimStart {c : Char} {cs : List Char} (blank : Text.isBlank c = true)
    (leads : leadsOperator (Text.trimStart cs) = true) : HoldsOperator (c :: cs) := by
  induction cs generalizing c with
  | nil => exact holdsOperator_cons.mpr (.inl ⟨blank, leads⟩)
  | cons next rest ih =>
      cases inside : Text.isBlank next with
      | true =>
          have later : leadsOperator (Text.trimStart rest) = true := by
            simpa [Text.trimStart, inside] using leads
          exact holdsOperator_cons.mpr (.inr (ih inside later))
      | false =>
          have here : leadsOperator (next :: rest) = true := by
            simpa [Text.trimStart, inside] using leads
          exact holdsOperator_cons.mpr (.inl ⟨blank, here⟩)

/-! ## Where a text in quotes ends -/

section Quotes

variable {quote : Char}

theorem not_blank_quote (kind : quote = '"' ∨ quote = '\'') : Text.isBlank quote = false := by
  obtain rfl | rfl := kind <;> decide

theorem not_mem_symbol (kind : quote = '"' ∨ quote = '\'') (operator : Operator) :
    quote ∉ operator.symbol.toList := by
  obtain rfl | rfl := kind <;> cases operator <;> decide

theorem trimStart_closed (kind : quote = '"' ∨ quote = '\'') (cs rest : List Char) :
    Text.trimStart (cs ++ quote :: rest) = Text.trimStart cs ++ quote :: rest := by
  induction cs with
  | nil => simp [Text.trimStart, not_blank_quote kind]
  | cons c cs ih =>
      cases blank : Text.isBlank c with
      | true => simpa [Text.trimStart, blank] using ih
      | false => simp [Text.trimStart, blank]

/-- An operator does not reach beyond a quote. -/
theorem leadsOperator_closed (kind : quote = '"' ∨ quote = '\'') {cs rest : List Char}
    (leads : leadsOperator (cs ++ quote :: rest) = true) : leadsOperator cs = true := by
  obtain ⟨operator, gap, after, blank, whole⟩ := leadsOperator_iff.mp leads
  have other : gap ≠ quote := by
    rintro rfl
    rw [not_blank_quote kind] at blank
    cases blank
  obtain ⟨tail, symbol, closes⟩ | ⟨tail, inside, follows⟩ := List.append_eq_append_iff.mp whole
  · cases tail with
    | nil => exact absurd (List.cons.inj closes).1.symm other
    | cons c tail =>
        obtain ⟨rfl, _⟩ := List.cons.inj closes
        exact absurd (symbol ▸ by simp) (not_mem_symbol kind operator)
  · cases tail with
    | nil => exact absurd (List.cons.inj follows).1 other
    | cons c tail =>
        obtain ⟨rfl, _⟩ := List.cons.inj follows
        exact leadsOperator_iff.mpr ⟨operator, gap, tail, blank, inside⟩

/-- A text that ends in a quote is a left operand as a whole when no operator in it stands between
white space. -/
theorem split?_closed (kind : quote = '"' ∨ quote = '\'') {inner cs right : List Char} {gap : Char}
    {operator : Operator} (whole : ¬ HoldsOperator inner) (blank : Text.isBlank gap = true)
    (parted : operatorAt? (Text.trimStart (gap :: cs)) = some (operator, right)) (c : Char) :
    split? (c :: (inner ++ quote :: gap :: cs)) = some (c :: (inner ++ [quote]), operator, right) := by
  induction inner generalizing c with
  | nil => simp [split?, not_blank_quote kind, blank, parted]
  | cons next rest ih =>
      rw [holdsOperator_cons, not_or] at whole
      have later := ih whole.2 next
      have nothing (inside : Text.isBlank next = true) :
          operatorAt? (Text.trimStart (next :: (rest ++ quote :: gap :: cs))) = none := by
        cases found : operatorAt? (Text.trimStart (next :: (rest ++ quote :: gap :: cs))) with
        | none => rfl
        | some reading =>
            have leads := leadsOperator_of_operatorAt? found
            rw [← List.cons_append, trimStart_closed kind] at leads
            have trimmed := leadsOperator_closed kind leads
            simp only [Text.trimStart, List.dropWhile_cons, inside, if_true] at trimmed
            refine absurd (holdsOperator_of_trimStart inside trimmed) ?_
            rw [holdsOperator_cons, not_or]
            exact whole
      simp only [List.cons_append] at later ⊢
      cases inside : Text.isBlank next with
      | true => simp [split?, inside, nothing inside, later]
      | false => simp [split?, inside, later]

end Quotes

/-! ## Comparisons that are told apart -/

/-- A text in quotes, of one of two kinds, without a quote of that kind inside. -/
structure Literal where
  quote : Char
  inner : String
  kind : quote = '"' ∨ quote = '\''
  plain : quote ∉ inner.toList

namespace Literal

/-- How a text in quotes is written. -/
def text (literal : Literal) : String :=
  String.ofList (literal.quote :: (literal.inner.toList ++ [literal.quote]))

theorem toList_text (literal : Literal) :
    literal.text.toList = literal.quote :: (literal.inner.toList ++ [literal.quote]) :=
  String.toList_ofList

end Literal

namespace Comparison

variable {comparison : Comparison} {literal : Literal}

/-- The left operand is a text in quotes, white space and nothing else stands around the operator,
and the right operand is one word. -/
structure Quotes (comparison : Comparison) (literal : Literal) : Prop where
  left : comparison.left = literal.text
  before : comparison.before ≠ "" ∧ Text.isBlankText comparison.before = true
  after : comparison.after ≠ "" ∧ Text.isBlankText comparison.after = true
  word : comparison.right ≠ "" ∧ comparison.right.toList.any Text.isBlank = false

namespace Quotes

theorem not_blank_right (quotes : comparison.Quotes literal) {c : Char}
    (member : c ∈ comparison.right.toList) : Text.isBlank c = false :=
  Bool.eq_false_iff.mpr (List.any_eq_false.mp quotes.word.2 c member)

/-- One word does not turn the operator before it into another. -/
theorem apart (quotes : comparison.Quotes literal) : ¬ Negates comparison.right.toList := by
  intro negates
  obtain ⟨gap, rest, blank, whole⟩ := negates
  rw [quotes.not_blank_right (by simp [whole])] at blank
  cases blank

theorem split? (quotes : comparison.Quotes literal)
    (whole : ¬ HoldsOperator literal.inner.toList) :
    split? comparison.text.toList =
      some (comparison.left.toList, comparison.operator, comparison.right.toList) := by
  have right : comparison.right.toList ≠ [] := by simpa using quotes.word.1
  rw [toList_text, quotes.left, literal.toList_text]
  cases before : comparison.before.toList with
  | nil => exact absurd (String.toList_eq_nil_iff.mp before) quotes.before.1
  | cons gap gaps =>
      cases after : comparison.after.toList with
      | nil => exact absurd (String.toList_eq_nil_iff.mp after) quotes.after.1
      | cons next nexts =>
          have blank : ∀ c ∈ gap :: gaps, Text.isBlank c = true :=
            before ▸ List.all_eq_true.mp quotes.before.2
          have follows : ∀ c ∈ next :: nexts, Text.isBlank c = true :=
            after ▸ List.all_eq_true.mp quotes.after.2
          simp only [List.cons_append, List.append_assoc, List.nil_append]
          apply split?_closed literal.kind whole (blank gap List.mem_cons_self)
          rw [← List.cons_append, trimStart_gap blank (head?_symbol comparison.operator _)]
          exact operatorAt?_symbol (follows next List.mem_cons_self)
            (fun c member => follows c (List.mem_cons_of_mem next member)) right
            (fun c first => quotes.not_blank_right (List.mem_of_head? first)) (fun _ => quotes.apart)

end Quotes

end Comparison

end Workflow.Condition
