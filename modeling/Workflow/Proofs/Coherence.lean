import Mathlib.Data.List.Nodup
import Mathlib.Data.List.Perm.Subperm
import Workflow.Proofs.Document
import Workflow.Proofs.Evaluation
import Workflow.Proofs.Rounding

/-!
# How the comparisons of values agree

Equality and order take values as numbers where they can, each with cases of its own.  They agree
all the same: two values have an order if and only if both are texts or both stand for numbers, and
then one is below the other, equal to it or above it.  What is equal as a value of one kind is equal
up to the form of numbers too.
-/

namespace Workflow

open Number

/-! ## Equality does not tell the sides apart -/

theorem Time.Timestamp.same_comm (left right : Time.Timestamp) :
    left.same right = right.same left := by
  unfold same
  cases left.offset <;> cases right.offset <;> simp [BEq.comm]

namespace Scalar

theorem equals_eq_of_position {left right : Scalar} {here there : Position}
    (placed : left.position? = some here) (placed' : right.position? = some there) :
    left.equals right = (here == there) := by
  cases left <;> cases right <;> simp_all [position?, equals]

theorem equals_comm (left right : Scalar) : left.equals right = right.equals left := by
  cases here : left.position? with
  | some place =>
      cases there : right.position? with
      | some place' =>
          rw [equals_eq_of_position here there, equals_eq_of_position there here, BEq.comm]
      | none => cases left <;> cases right <;> simp_all [position?, equals]
  | none =>
      cases left <;> cases right <;>
        simp_all [position?, equals, BEq.comm, Time.Timestamp.same_comm]

theorem same_comm (left right : Scalar) : left.same right = right.same left := by
  rw [same, same, equals_comm, BEq.comm]

end Scalar

namespace Value

theorem coveredBy_iff {entries others : Dict} :
    coveredBy entries others = true ↔
      ∀ entry ∈ entries, ∃ other, others.find? entry.1 = some other ∧
        entry.2.same other = true := by
  induction entries with
  | nil => simp [coveredBy]
  | cons entry rest ih =>
      obtain ⟨key, value⟩ := entry
      simp only [coveredBy, Bool.and_eq_true, ih, List.forall_mem_cons]
      cases others.find? key <;> simp

/-- A mapping that is covered by another one with no more keys covers that one as well. -/
theorem coveredBy_of_coveredBy {entries others : Dict} (keyed : entries.KeyedByText)
    (keyed' : others.KeyedByText) (short : others.length ≤ entries.length)
    (each : ∀ entry ∈ entries, ∀ other ∈ others, entry.2.same other.2 = other.2.same entry.2)
    (covered : coveredBy entries others = true) : coveredBy others entries = true := by
  rw [coveredBy_iff] at covered ⊢
  have found : ∀ entry ∈ entries, ∃ other ∈ others, other.1 = entry.1 ∧
      entry.2.same other.2 = true := by
    intro entry member
    obtain ⟨name, text⟩ := keyed.1 entry member
    obtain ⟨other, finds, same⟩ := covered entry member
    rw [text] at finds
    exact ⟨(.text name, other), (Dict.field?_eq_some_iff keyed').mp finds, text.symm, same⟩
  -- the keys of one are among the keys of the other, and there are no more of these
  have keys : (entries.map (·.1)).Perm (others.map (·.1)) := by
    apply List.Subperm.perm_of_length_le
    · apply List.subperm_of_subset keyed.2
      intro key member
      obtain ⟨entry, inside, rfl⟩ := List.mem_map.mp member
      obtain ⟨other, among, same, _⟩ := found entry inside
      exact List.mem_map.mpr ⟨other, among, same⟩
    · simpa using short
  intro other member
  obtain ⟨name, text⟩ := keyed'.1 other member
  obtain ⟨entry, inside, same⟩ := List.mem_map.mp
    (keys.mem_iff.mpr (List.mem_map.mpr ⟨other, member, rfl⟩))
  obtain ⟨other', member', same', equal⟩ := found entry inside
  have only : other' = other :=
    List.inj_on_of_nodup_map keyed'.2 member' member (same'.trans same)
  refine ⟨entry.2, ?_, ?_⟩
  · rw [text]
    apply (Dict.field?_eq_some_iff keyed).mpr
    rw [← text, ← same]
    exact inside
  · rw [← each entry inside other member, ← only]
    exact equal

theorem sameLists_comm {items others : List Value}
    (each : ∀ item ∈ items, ∀ other ∈ others, item.same other = other.same item) :
    sameLists items others = sameLists others items := by
  induction items generalizing others with
  | nil => cases others <;> rfl
  | cons item rest ih =>
      cases others with
      | nil => rfl
      | cons other more =>
          have later := ih fun item inside other among =>
            each item (List.mem_cons_of_mem _ inside) other (List.mem_cons_of_mem _ among)
          rw [sameLists, sameLists, later, each item List.mem_cons_self other List.mem_cons_self]

theorem same_comm {left right : Value} (document : left.IsDocument)
    (document' : right.IsDocument) : left.same right = right.same left := by
  induction document generalizing right with
  | scalar value =>
      cases document' with
      | scalar other => exact Scalar.same_comm value other
      | list | dict => rfl
  | list documents ih =>
      cases document' with
      | list documents' =>
          exact sameLists_comm fun item inside other among =>
            ih item inside (documents' other among)
      | scalar | dict => rfl
  | @dict entries keyed documents ih =>
      cases document' with
      | @dict others keyed' documents' =>
          have each : ∀ entry ∈ entries, ∀ other ∈ others,
              entry.2.same other.2 = other.2.same entry.2 :=
            fun entry inside other among => ih entry inside (documents' other among)
          simp only [same]
          by_cases long : entries.length = others.length
          · have covers : coveredBy entries others = coveredBy others entries :=
              Bool.eq_iff_iff.mpr
                ⟨coveredBy_of_coveredBy keyed keyed' (Nat.le_of_eq long.symm) each,
                  coveredBy_of_coveredBy keyed' keyed (Nat.le_of_eq long)
                    fun other among entry inside => (each entry inside other among).symm⟩
            rw [covers, BEq.comm]
          · have apart : (entries.length == others.length) = false := by simpa using long
            rw [apart, BEq.comm, apart]
            rfl
      | scalar | list => rfl

theorem equals_comm {left right : Value} (document : left.IsDocument)
    (document' : right.IsDocument) : left.equals right = right.equals left := by
  cases document with
  | scalar value =>
      cases document' with
      | scalar other => exact Scalar.equals_comm value other
      | list | dict => rfl
  | list documents =>
      have same := same_comm (.list documents) document'
      cases document' with
      | scalar => rfl
      | list | dict => exact same
  | dict keyed documents =>
      have same := same_comm (.dict keyed documents) document'
      cases document' with
      | scalar => rfl
      | list | dict => exact same

end Value

/-! ## Orders -/

namespace Number

namespace Position

theorem order_eq_iff {here there : Position} : here.order there = .eq ↔ here = there := by
  cases here <;> cases there <;> simp [order]

theorem order_swap (here there : Position) : (here.order there).swap = there.order here := by
  cases here <;> cases there <;> first | rfl | exact Std.OrientedOrd.eq_swap.symm

end Position

theorem isSome_position?_ofUnits (negative : Bool) (numerator denominator : Nat) :
    (Binary64.ofUnits negative numerator denominator).position?.isSome = true := by
  unfold Binary64.ofUnits
  cases Magnitude.nearest? numerator denominator <;> rfl

/-- A number that is read from digits lies somewhere. -/
theorem isSome_position?_ofDecimal (negative : Bool) (digits : List Nat) (exponent : Int) :
    (ofDecimal negative digits exponent).position?.isSome = true := by
  simp only [ofDecimal]
  split
  · rfl
  split
  · rfl
  split <;> exact isSome_position?_ofUnits negative _ _

end Number

namespace Condition

theorem textOrder_eq_iff {left right : String} : textOrder left right = .eq ↔ left = right := by
  simp only [textOrder]
  split
  · next below =>
      simp only [reduceCtorEq, false_iff]
      rintro rfl
      exact String.lt_irrefl _ below
  · next notBelow =>
      split
      · next above =>
          simp only [reduceCtorEq, false_iff]
          rintro rfl
          exact String.lt_irrefl _ above
      · next notAbove =>
          simp only [true_iff]
          exact String.le_antisymm (String.not_lt.mp notAbove) (String.not_lt.mp notBelow)

theorem textOrder_swap (left right : String) :
    (textOrder left right).swap = textOrder right left := by
  simp only [textOrder]
  by_cases below : left < right
  · simp [below, String.lt_asymm below]
  · by_cases above : right < left <;> simp [below, above]

/-! ## Values that stand for numbers -/

/-- A value stands for a number in a comparison: it is one, or it is a text that is a numeral. -/
def IsNumeric : Value → Prop
  | .int _ | .float _ => True
  | .text text => (Numeral.read? (Text.trim text.toList)).isSome = true
  | _ => False

/-- Nothing keeps a value from being compared: it is no not-a-number, and no numeral of more digits
than are read. -/
def IsReadable : Value → Prop
  | .float number => number.position?.isSome = true
  | .text text => ∀ numeral ∈ Numeral.read? (Text.trim text.toList), ¬ numeral.TooLong
  | _ => True

section Numbers

variable {value left right : Value} {number number' : Scalar} {place place' : Position}

theorem asNumber?_of_isNumeric (numeric : IsNumeric value) (readable : IsReadable value) :
    ∃ number place, asNumber? value = .ok (some number) ∧ number.position? = some place := by
  unfold IsNumeric at numeric
  split at numeric
  · exact ⟨_, _, rfl, rfl⟩
  · next number =>
      obtain ⟨place, placed⟩ := Option.isSome_iff_exists.mp readable
      exact ⟨_, place, rfl, placed⟩
  · next text =>
      obtain ⟨numeral, reads⟩ := Option.isSome_iff_exists.mp numeric
      have short := readable numeral reads
      simp only [asNumber?, reads, numeralValue]
      cases point : numeral.fraction with
      | some fraction =>
          obtain ⟨place, placed⟩ := Option.isSome_iff_exists.mp
            (isSome_position?_ofDecimal numeral.negative
              (numeral.whole ++ numeral.fraction.getD []) (-(numeral.fraction.getD []).length))
          exact ⟨_, place, rfl, placed⟩
      | none =>
          have fits : ¬ digitLimit < numeral.whole.length := fun long => short ⟨point, long⟩
          simp only [fits, if_false]
          exact ⟨_, _, rfl, rfl⟩
  · exact numeric.elim

theorem asNumber?_of_not_isNumeric (other : ¬ IsNumeric value) : asNumber? value = .ok none := by
  unfold asNumber?
  split
  · exact absurd trivial other
  · exact absurd trivial other
  · next text =>
      cases reads : Numeral.read? (Text.trim text.toList) with
      | none => rfl
      | some numeral => exact absurd (by simp [IsNumeric, reads]) other
  · rfl

theorem bothNumbers?_eq_some (reads : asNumber? left = .ok (some number))
    (reads' : asNumber? right = .ok (some number')) :
    bothNumbers? left right = .ok (some (number, number')) := by
  simp only [bothNumbers?, reads, reads']
  rfl

theorem bothNumbers?_eq_none (readable : IsReadable left) (readable' : IsReadable right)
    (other : ¬ (IsNumeric left ∧ IsNumeric right)) : bothNumbers? left right = .ok none := by
  have read (value : Value) (readable : IsReadable value) :
      ∃ number?, asNumber? value = .ok number? := by
    by_cases numeric : IsNumeric value
    · obtain ⟨number, _, reads, _⟩ := asNumber?_of_isNumeric numeric readable
      exact ⟨_, reads⟩
    · exact ⟨_, asNumber?_of_not_isNumeric numeric⟩
  rw [not_and_or] at other
  cases other with
  | inl other =>
      obtain ⟨number?, reads⟩ := read right readable'
      simp only [bothNumbers?, asNumber?_of_not_isNumeric other, reads]
      rfl
  | inr other =>
      obtain ⟨number?, reads⟩ := read left readable
      simp only [bothNumbers?, asNumber?_of_not_isNumeric other, reads]
      cases number? <;> rfl

end Numbers

/-! ## Equality up to the form of numbers -/

/-- A value that is compared as what it is, not by what counts as true. -/
def IsDirect : Value → Prop
  | .null | .bool _ => False
  | _ => True

section Equality

variable {left right : Value} {number number' : Scalar}

theorem looselyEqual_null (other : Value) :
    looselyEqual .null other = .ok (!other.truthy) ∧
      looselyEqual other .null = .ok (!other.truthy) := by
  refine ⟨rfl, ?_⟩
  cases other with
  | scalar value => cases value <;> rfl
  | list | group | set | dict | loop => rfl

theorem looselyEqual_bool (value : Bool) (other : Value) :
    looselyEqual (.bool value) other = .ok (value == other.truthy) ∧
      looselyEqual other (.bool value) = .ok (value == other.truthy) := by
  cases other with
  | scalar other => cases other <;> cases value <;> simp [looselyEqual, Value.truthy, BEq.comm]
  | list | group | set | dict | loop => simp [looselyEqual, BEq.comm]

/-- Where both values stand for numbers their numbers decide. -/
theorem looselyEqual_of_numbers (numeric : IsNumeric left) (numeric' : IsNumeric right)
    (numbers : bothNumbers? left right = .ok (some (number, number'))) :
    looselyEqual left right = .ok (number.equals number') := by
  unfold looselyEqual
  split
  · exact numeric.elim
  · exact numeric'.elim
  · exact numeric.elim
  · exact numeric'.elim
  · simp only [numbers]
    rfl
  · next notTexts =>
      have number : (isNumber left || isNumber right) = true := by
        unfold IsNumeric at numeric numeric'
        split at numeric <;> split at numeric' <;> simp_all [isNumber]
      simp only [number, numbers]
      rfl

/-- A number equals no direct value that stands for none. -/
theorem equals_number_of_not_numbers (direct : IsDirect left) (direct' : IsDirect right)
    (other : ¬ (IsNumeric left ∧ IsNumeric right))
    (number : (isNumber left || isNumber right) = true) : left.equals right = false := by
  cases left with
  | scalar left =>
      cases right with
      | scalar right =>
          cases left <;> cases right <;>
            simp_all [isNumber, IsNumeric, IsDirect, Value.equals, Scalar.equals, Scalar.position?]
      | list | group | set | dict | loop => rfl
  | list | group | set | dict | loop =>
      cases right <;> first | rfl | simp [isNumber] at number

/-- Where they do not, direct values are equal as they are. -/
theorem looselyEqual_of_not_numbers (direct : IsDirect left) (direct' : IsDirect right)
    (other : ¬ (IsNumeric left ∧ IsNumeric right))
    (numbers : bothNumbers? left right = .ok none) :
    looselyEqual left right = .ok (left.equals right) := by
  unfold looselyEqual
  split
  · exact direct.elim
  · exact direct'.elim
  · exact direct.elim
  · exact direct'.elim
  · simp only [numbers]
    rfl
  · simp only [numbers]
    split
    · next number =>
        rw [equals_number_of_not_numbers direct direct' other number]
        rfl
    · rfl

end Equality

section Kinds

variable {left right : Value}

theorem eq_null_or_bool_or_isDirect (value : Value) :
    value = .null ∨ (∃ truth, value = .bool truth) ∨ IsDirect value := by
  cases value with
  | scalar value =>
      cases value with
      | null => exact .inl rfl
      | bool truth => exact .inr (.inl ⟨truth, rfl⟩)
      | int | float | text | date | timestamp | bytes => exact .inr (.inr trivial)
  | list | group | set | dict | loop => exact .inr (.inr trivial)

/-- The numbers of equal values of one kind are equal. -/
theorem equals_asNumber? {number number' : Scalar} {place : Position}
    (kind : left.kindName = right.kindName) (equal : left.equals right = true)
    (reads : asNumber? left = .ok (some number)) (reads' : asNumber? right = .ok (some number'))
    (placed : number.position? = some place) : number.equals number' = true := by
  cases right with
  | list | group | set | dict | loop => cases reads'
  | scalar right =>
      cases left with
      | list | group | set | dict | loop => cases reads
      | scalar left =>
          cases left <;> cases right <;> simp_all [Value.kindName, asNumber?, Value.equals]
          next text text' =>
            have same : text = text' := by simpa [Scalar.equals] using equal
            subst same
            rw [reads] at reads'
            cases reads'
            rw [Scalar.equals_eq_of_position placed placed, beq_self_eq_true]

theorem bool_eq_of_equals {truth truth' : Bool}
    (equal : (Scalar.bool truth).equals (.bool truth') = true) : truth = truth' := by
  have places : (Scalar.bool truth).equals (.bool truth') =
      (positionOfInt (if truth then 1 else 0) == positionOfInt (if truth' then 1 else 0)) :=
    Scalar.equals_eq_of_position rfl rfl
  rw [places] at equal
  have unit : (unitsPerOne : Int) ≠ 0 :=
    Int.ofNat_ne_zero.mpr (Nat.ne_of_gt Magnitude.unitsPerOne_pos)
  simp only [positionOfInt, beq_iff_eq, Position.at.injEq, Int.mul_eq_mul_right_iff unit] at equal
  cases truth <;> cases truth' <;> first | rfl | simp at equal

theorem eq_null_of_kindName {value : Value} (kind : value.kindName = "NoneType") :
    value = .null := by
  cases value with
  | scalar value => cases value <;> first | rfl | simp [Value.kindName] at kind
  | list | group | set | dict => simp [Value.kindName] at kind
  | loop _ isList => cases isList <;> simp [Value.kindName] at kind

theorem eq_bool_of_kindName {value : Value} (kind : value.kindName = "bool") :
    ∃ truth, value = .bool truth := by
  cases value with
  | scalar value => cases value <;> first | exact ⟨_, rfl⟩ | simp [Value.kindName] at kind
  | list | group | set | dict => simp [Value.kindName] at kind
  | loop _ isList => cases isList <;> simp [Value.kindName] at kind

theorem isDirect_of_kindName (direct : IsDirect left) (kind : left.kindName = right.kindName) :
    IsDirect right := by
  rcases eq_null_or_bool_or_isDirect right with rfl | ⟨truth, rfl⟩ | direct'
  · exact (eq_null_of_kindName kind ▸ direct : IsDirect .null).elim
  · obtain ⟨truth', rfl⟩ := eq_bool_of_kindName kind
    exact direct.elim
  · exact direct'

end Kinds

/-! ## Order and equality -/

/-- A value of a document that nothing keeps from being compared. -/
structure Comparable (value : Value) : Prop where
  document : value.IsDocument
  readable : IsReadable value

/-- Two values have an order: both are texts, or both stand for numbers. -/
def Orderable (left right : Value) : Prop :=
  (∃ here there, left = .text here ∧ right = .text there) ∨ (IsNumeric left ∧ IsNumeric right)

theorem Orderable.comm {left right : Value} (orderable : Orderable left right) :
    Orderable right left := by
  cases orderable with
  | inl texts =>
      obtain ⟨here, there, text, text'⟩ := texts
      exact .inl ⟨there, here, text', text⟩
  | inr numbers => exact .inr numbers.symm

section Agreement

variable {left right : Value} (comparable : Comparable left) (comparable' : Comparable right)

include comparable comparable'

theorem looselyEqual_comm :
    ∃ same, looselyEqual left right = .ok same ∧ looselyEqual right left = .ok same := by
  rcases eq_null_or_bool_or_isDirect left with rfl | ⟨truth, rfl⟩ | direct
  · exact ⟨_, looselyEqual_null right⟩
  · exact ⟨_, looselyEqual_bool truth right⟩
  rcases eq_null_or_bool_or_isDirect right with rfl | ⟨truth, rfl⟩ | direct'
  · exact ⟨_, (looselyEqual_null left).symm⟩
  · exact ⟨_, (looselyEqual_bool truth left).symm⟩
  by_cases numeric : IsNumeric left ∧ IsNumeric right
  · obtain ⟨number, _, reads, _⟩ := asNumber?_of_isNumeric numeric.1 comparable.readable
    obtain ⟨number', _, reads', _⟩ := asNumber?_of_isNumeric numeric.2 comparable'.readable
    refine ⟨number.equals number', ?_, ?_⟩
    · exact looselyEqual_of_numbers numeric.1 numeric.2 (bothNumbers?_eq_some reads reads')
    · rw [Scalar.equals_comm]
      exact looselyEqual_of_numbers numeric.2 numeric.1 (bothNumbers?_eq_some reads' reads)
  · have swapped : ¬ (IsNumeric right ∧ IsNumeric left) := fun both => numeric both.symm
    refine ⟨left.equals right, ?_, ?_⟩
    · exact looselyEqual_of_not_numbers direct direct' numeric
        (bothNumbers?_eq_none comparable.readable comparable'.readable numeric)
    · rw [Value.equals_comm comparable.document comparable'.document]
      exact looselyEqual_of_not_numbers direct' direct swapped
        (bothNumbers?_eq_none comparable'.readable comparable.readable swapped)

/-- What is equal as a value of one kind is equal up to the form of numbers. -/
theorem looselyEqual_of_strictlyEqual (same : strictlyEqual left right = true) :
    looselyEqual left right = .ok true := by
  simp only [strictlyEqual, Bool.and_eq_true, beq_iff_eq] at same
  obtain ⟨kind, equal⟩ := same
  rcases eq_null_or_bool_or_isDirect left with rfl | ⟨truth, rfl⟩ | direct
  · rw [eq_null_of_kindName kind.symm]
    rfl
  · obtain ⟨truth', rfl⟩ := eq_bool_of_kindName kind.symm
    rw [bool_eq_of_equals equal, (looselyEqual_bool truth' _).1]
    exact congrArg _ (beq_self_eq_true _)
  have direct' := isDirect_of_kindName direct kind
  by_cases numeric : IsNumeric left ∧ IsNumeric right
  · obtain ⟨number, place, reads, placed⟩ := asNumber?_of_isNumeric numeric.1 comparable.readable
    obtain ⟨number', _, reads', _⟩ := asNumber?_of_isNumeric numeric.2 comparable'.readable
    rw [looselyEqual_of_numbers numeric.1 numeric.2 (bothNumbers?_eq_some reads reads'),
      equals_asNumber? kind equal reads reads' placed]
  · rw [looselyEqual_of_not_numbers direct direct' numeric
      (bothNumbers?_eq_none comparable.readable comparable'.readable numeric), equal]

/-- Two numbers are equal or ordered by their places. -/
theorem order?_of_numeric (numeric : IsNumeric left) (numeric' : IsNumeric right)
    (expression : Value) :
    ∃ place place' : Position, order? left right expression = .ok (some (place.order place')) ∧
      order? right left expression = .ok (some (place'.order place)) ∧
      looselyEqual left right = .ok (place == place') := by
  obtain ⟨number, place, reads, placed⟩ := asNumber?_of_isNumeric numeric comparable.readable
  obtain ⟨number', place', reads', placed'⟩ :=
    asNumber?_of_isNumeric numeric' comparable'.readable
  have numbers := bothNumbers?_eq_some reads reads'
  refine ⟨place, place', ?_, ?_, ?_⟩
  · simp only [order?, numbers, numberOrder?, placed, placed']
    rfl
  · simp only [order?, bothNumbers?_eq_some reads' reads, numberOrder?, placed, placed']
    rfl
  · rw [looselyEqual_of_numbers numeric numeric' numbers,
      Scalar.equals_eq_of_position placed placed']

/-- What the order of two values is, equality and the order the other way round tell as well. -/
theorem order?_of_orderable (orderable : Orderable left right) (expression : Value) :
    ∃ ordering : Ordering, order? left right expression = .ok (some ordering) ∧
      order? right left expression = .ok (some ordering.swap) ∧
      looselyEqual left right = .ok (ordering == .eq) := by
  by_cases numeric : IsNumeric left ∧ IsNumeric right
  · obtain ⟨place, place', ordered, ordered', equal⟩ :=
      order?_of_numeric comparable comparable' numeric.1 numeric.2 expression
    refine ⟨place.order place', ordered, ?_, ?_⟩
    · rw [Position.order_swap, ordered']
    · rw [equal]
      exact congrArg _ (Bool.eq_iff_iff.mpr (by simp [Position.order_eq_iff]))
  · obtain ⟨here, there, rfl, rfl⟩ := orderable.resolve_right numeric
    have numbers := bothNumbers?_eq_none comparable.readable comparable'.readable numeric
    have numbers' := bothNumbers?_eq_none comparable'.readable comparable.readable
      fun swapped => numeric swapped.symm
    refine ⟨textOrder here there, ?_, ?_, ?_⟩
    · simp only [order?, numbers]
    · rw [textOrder_swap]
      simp only [order?, numbers']
    · have direct (text : String) : IsDirect (.text text) := trivial
      rw [looselyEqual_of_not_numbers (direct here) (direct there) numeric numbers]
      exact congrArg _ (Bool.eq_iff_iff.mpr
        (by simp [textOrder_eq_iff, Value.equals, Scalar.equals]))

/-- Values without an order are refused. -/
theorem order?_of_not_orderable (other : ¬ Orderable left right) (expression : Value) :
    order? left right expression = .error (.evaluation (.unordered left right expression)) := by
  have numbers := bothNumbers?_eq_none comparable.readable comparable'.readable
    fun numeric => other (.inr numeric)
  unfold order?
  rw [numbers]
  split
  · next wrong => cases wrong
  · next wrong => cases wrong
  · exact absurd (.inl ⟨_, _, rfl, rfl⟩) other
  · rfl

end Agreement

/-! ## The operators agree -/

/-- The operators that ask for the order of two values. -/
def IsOrdering : Operator → Prop
  | .less | .greater | .lessEqual | .greaterEqual => True
  | _ => False

/-- A comparison holds. -/
def Holds (left : Value) (operator : Operator) (right expression : Value) : Prop :=
  compare left operator right expression = .ok true

/-- A comparison is refused. -/
def Refuses (left : Value) (operator : Operator) (right expression : Value) : Prop :=
  ∃ error, compare left operator right expression = .error (.evaluation error)

/-- What the operators say of two values fits together. -/
structure Coherent (left right expression : Value) : Prop where
  equal_comm : ∃ same, compare left .equal right expression = .ok same ∧
    compare right .equal left expression = .ok same
  equal_of_is : Holds left .is right expression → Holds left .equal right expression
  refuses_iff : ∀ operator, IsOrdering operator →
    (Refuses left operator right expression ↔ ¬ Orderable left right)
  refuses_comm : ∀ operator, IsOrdering operator →
    (Refuses left operator right expression ↔ Refuses right operator left expression)
  answers : ∀ operator, IsOrdering operator → ¬ Refuses left operator right expression →
    ∃ holds, compare left operator right expression = .ok holds
  trichotomy : Orderable left right → ∃ ordering : Ordering,
    compare left .less right expression = .ok (ordering == .lt) ∧
      compare left .equal right expression = .ok (ordering == .eq) ∧
      compare left .greater right expression = .ok (ordering == .gt)
  lessEqual_iff : Orderable left right → (Holds left .lessEqual right expression ↔
    Holds left .less right expression ∨ Holds left .equal right expression)
  greaterEqual_iff : Orderable left right → (Holds left .greaterEqual right expression ↔
    Holds left .greater right expression ∨ Holds left .equal right expression)
  less_iff_greater : Orderable left right →
    (Holds left .less right expression ↔ Holds right .greater left expression)

section Operators

variable {left right expression : Value}

/-- The order of two values settles every comparison by order. -/
theorem compare_of_order? {ordering : Ordering}
    (ordered : order? left right expression = .ok (some ordering)) :
    compare left .less right expression = .ok (ordering == .lt) ∧
      compare left .greater right expression = .ok (ordering == .gt) ∧
      compare left .lessEqual right expression = .ok (ordering != .gt) ∧
      compare left .greaterEqual right expression = .ok (ordering != .lt) := by
  simp only [compare, ordered]
  cases ordering <;> exact ⟨rfl, rfl, rfl, rfl⟩

theorem compare_of_order?_eq_error {operator : Operator} (ordering : IsOrdering operator)
    {failure : Failure} (refused : order? left right expression = .error failure) :
    compare left operator right expression = .error failure := by
  cases operator with
  | less | greater | lessEqual | greaterEqual =>
      simp only [compare, refused]
      rfl
  | isNot | is | notEqual | equal => exact ordering.elim

theorem answers_of_orderable (comparable : Comparable left) (comparable' : Comparable right)
    (orderable : Orderable left right) {operator : Operator} (ordering : IsOrdering operator) :
    ∃ holds, compare left operator right expression = .ok holds := by
  obtain ⟨_, ordered, _⟩ := order?_of_orderable comparable comparable' orderable expression
  obtain ⟨less, greater, lessEqual, greaterEqual⟩ := compare_of_order? ordered
  cases operator with
  | less => exact ⟨_, less⟩
  | greater => exact ⟨_, greater⟩
  | lessEqual => exact ⟨_, lessEqual⟩
  | greaterEqual => exact ⟨_, greaterEqual⟩
  | isNot | is | notEqual | equal => exact ordering.elim

theorem refuses_iff (comparable : Comparable left) (comparable' : Comparable right)
    {operator : Operator} (ordering : IsOrdering operator) :
    Refuses left operator right expression ↔ ¬ Orderable left right := by
  constructor
  · intro refused orderable
    obtain ⟨error, refused⟩ := refused
    obtain ⟨holds, answers⟩ := answers_of_orderable comparable comparable' orderable ordering
    rw [answers] at refused
    cases refused
  · intro other
    exact ⟨_, compare_of_order?_eq_error ordering
      (order?_of_not_orderable comparable comparable' other expression)⟩

/-- One order stands behind every comparison of two values that have one. -/
theorem exists_ordering (comparable : Comparable left) (comparable' : Comparable right)
    (orderable : Orderable left right) (expression : Value) :
    ∃ ordering : Ordering, compare left .less right expression = .ok (ordering == .lt) ∧
      compare left .equal right expression = .ok (ordering == .eq) ∧
      compare left .greater right expression = .ok (ordering == .gt) ∧
      compare left .lessEqual right expression = .ok (ordering != .gt) ∧
      compare left .greaterEqual right expression = .ok (ordering != .lt) ∧
      compare right .greater left expression = .ok (ordering == .lt) := by
  obtain ⟨ordering, ordered, ordered', equal⟩ :=
    order?_of_orderable comparable comparable' orderable expression
  obtain ⟨less, greater, lessEqual, greaterEqual⟩ := compare_of_order? ordered
  obtain ⟨_, greater', _⟩ := compare_of_order? ordered'
  refine ⟨ordering, less, ?_, greater, lessEqual, greaterEqual, ?_⟩
  · simp only [compare, equal]
    rfl
  · rw [greater']
    cases ordering <;> rfl

/-- Equality is symmetric and follows from equality of values of one kind; exactly the pairs without
an order are refused; and of two values that have one, one is below the other, equal to it or above
it. -/
theorem compare_coherent (comparable : Comparable left) (comparable' : Comparable right)
    (expression : Value) : Coherent left right expression where
  equal_comm := by
    obtain ⟨same, equal, equal'⟩ := looselyEqual_comm comparable comparable'
    exact ⟨same, by simp only [compare, equal]; rfl, by simp only [compare, equal']; rfl⟩
  equal_of_is := by
    intro same
    have equal := looselyEqual_of_strictlyEqual comparable comparable' (Except.ok.inj same)
    simp only [Holds, compare, equal]
    rfl
  refuses_iff _ ordering := refuses_iff comparable comparable' ordering
  refuses_comm _ ordering := by
    rw [refuses_iff comparable comparable' ordering, refuses_iff comparable' comparable ordering]
    exact not_congr ⟨.comm, .comm⟩
  answers _ ordering := by
    rw [refuses_iff comparable comparable' ordering, not_not]
    exact fun orderable => answers_of_orderable comparable comparable' orderable ordering
  trichotomy orderable := by
    obtain ⟨ordering, less, equal, greater, _⟩ :=
      exists_ordering comparable comparable' orderable expression
    exact ⟨ordering, less, equal, greater⟩
  lessEqual_iff orderable := by
    obtain ⟨ordering, less, equal, _, lessEqual, _⟩ :=
      exists_ordering comparable comparable' orderable expression
    rw [Holds, Holds, Holds, less, equal, lessEqual]
    cases ordering <;> decide
  greaterEqual_iff orderable := by
    obtain ⟨ordering, _, equal, greater, _, greaterEqual, _⟩ :=
      exists_ordering comparable comparable' orderable expression
    rw [Holds, Holds, Holds, greater, equal, greaterEqual]
    cases ordering <;> decide
  less_iff_greater orderable := by
    obtain ⟨ordering, less, _, _, _, _, greater'⟩ :=
      exists_ordering comparable comparable' orderable expression
    rw [Holds, Holds, less, greater']

/-- A numeral can be compared with a number. -/
theorem compare_coherent_numeral :
    Comparable (.text " 10") ∧ Comparable (.int 9) ∧ Orderable (.text " 10") (.int 9) ∧
      Coherent (.text " 10") (.int 9) .null := by
  have short : ∀ numeral ∈ Numeral.read? (Text.trim " 10".toList),
      numeral.whole.length ≤ digitLimit := by decide
  have comparable : Comparable (.text " 10") :=
    ⟨.scalar _, fun numeral reads long => Nat.not_lt.mpr (short numeral reads) long.2⟩
  have comparable' : Comparable (.int 9) := ⟨.scalar _, trivial⟩
  have numeric : IsNumeric (.text " 10") := by
    show (Numeral.read? (Text.trim " 10".toList)).isSome = true
    decide
  exact ⟨comparable, comparable', .inr ⟨numeric, trivial⟩,
    compare_coherent comparable comparable' .null⟩

end Operators

end Condition

end Workflow
