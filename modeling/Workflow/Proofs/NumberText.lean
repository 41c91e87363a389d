import Workflow.Json.Reader
import Workflow.Json.Writer
import Workflow.Proofs.Rounding

/-!
# Numbers that are read back

The digits of a whole number are read as that number, and the shortest text of a number with a
fraction as the number that it was made from, whatever the text is laid out like.  Both are read in
front of what can follow a number in a list or in a mapping.
-/

namespace Workflow.Json

open Number

/-- What can follow a value inside a document: nothing, a comma, or a closing bracket. -/
def Ends (rest : List Char) : Prop :=
  ∀ c ∈ rest.head?, c = ',' ∨ c = ']' ∨ c = '\x7d'

theorem Ends.nil : Ends [] := by
  simp [Ends]

theorem Ends.stops {rest : List Char} (ends : Ends rest) : ∀ c ∈ rest.head?, c.isDigit = false := by
  intro c first
  obtain rfl | rfl | rfl := ends c first <;> rfl

/-! ## Digits -/

theorem digitText_eq_toDigits (value : Nat) : digitText value = Nat.toDigits 10 value :=
  Nat.toList_repr

theorem isDigit_of_mem_digitText {value : Nat} {c : Char} (member : c ∈ digitText value) :
    c.isDigit = true := by
  rw [digitText_eq_toDigits] at member
  exact Nat.isDigit_of_mem_toDigits (by decide) (by decide) member

theorem isDigit_of_mem_nought : ∀ c ∈ ['0'], c.isDigit = true := by
  simp

theorem digitsValue_digitText (value : Nat) :
    digitsValue (digitList (digitText value)) = value := by
  have read := @Nat.ofDigitChars_ten_toDigits value
  rw [Nat.ofDigitChars_eq_foldl, ← digitText_eq_toDigits] at read
  rw [digitsValue, digitList, List.foldl_map]
  exact read

/-- The digits of a number other than nought do not begin with a nought. -/
theorem head?_digitText {value : Nat} (positive : 0 < value) :
    ∃ first rest, digitText value = first :: rest ∧ first ≠ '0' := by
  rw [digitText_eq_toDigits]
  induction value using Nat.strongRecOn with
  | ind value ih =>
      by_cases single : value < 10
      · refine ⟨value.digitChar, [], Nat.toDigits_of_lt_base single, ?_⟩
        rw [Ne, Nat.digitChar_eq_zero]
        omega
      · obtain ⟨first, rest, written, notZero⟩ := ih (value / 10) (by omega) (by omega)
        rw [Nat.toDigits_of_base_le (by decide) (by omega), written]
        exact ⟨first, rest ++ [(value % 10).digitChar], rfl, notZero⟩

theorem digit_lt_of_mem {cs : List Char} (plain : ∀ c ∈ cs, c.isDigit = true) :
    ∀ digit ∈ digitList cs, digit < 10 := by
  intro digit member
  obtain ⟨c, inside, rfl⟩ := List.mem_map.mp member
  have isDigit := plain c inside
  simp only [Char.isDigit, Bool.and_eq_true, decide_eq_true_eq] at isDigit
  have high : c.toNat ≤ 57 := isDigit.2
  omega

theorem plainDigits_append {digits rest : List Char} (plain : ∀ c ∈ digits, c.isDigit = true)
    (stops : ∀ c ∈ rest.head?, c.isDigit = false) :
    plainDigits (digits ++ rest) = (digits, rest) := by
  cases rest with
  | nil =>
      have front := @List.takeWhile_append_of_pos _ Char.isDigit digits [] plain
      have back := @List.dropWhile_append_of_pos _ Char.isDigit digits [] plain
      simp only [List.append_nil, List.takeWhile_nil, List.dropWhile_nil] at front back
      simp [plainDigits, front, back]
  | cons c rest =>
      have stop : c.isDigit = false := stops c rfl
      simp [plainDigits, List.takeWhile_append_of_pos plain, List.dropWhile_append_of_pos plain,
        stop]

/-! ## Parts of a number -/

theorem readFraction_of_ends {rest : List Char} (ends : Ends rest) :
    readFraction rest = (none, rest) := by
  cases rest with
  | nil => rfl
  | cons c rest =>
      have notPoint : c ≠ '.' := by
        intro same
        simp [Ends, same] at ends
      unfold readFraction
      split
      · next same => simp_all
      · rfl

theorem readFraction_append {digits rest : List Char} (plain : ∀ c ∈ digits, c.isDigit = true)
    (some : digits ≠ []) (stops : ∀ c ∈ rest.head?, c.isDigit = false) :
    readFraction ('.' :: (digits ++ rest)) = (Option.some digits, rest) := by
  cases digits with
  | nil => exact absurd rfl some
  | cons => simp only [readFraction, plainDigits_append plain stops]

theorem readExponent_of_ends {rest : List Char} (ends : Ends rest) :
    readExponent rest = (none, rest) := by
  cases rest with
  | nil => rfl
  | cons c rest =>
      have notMark : ¬ (c = 'e' || c = 'E') = true := by
        intro marked
        simp only [Bool.or_eq_true, decide_eq_true_eq] at marked
        cases marked with
        | inl same => simp [Ends, same] at ends
        | inr same => simp [Ends, same] at ends
      simp [readExponent, notMark]

theorem readExponent_append {digits rest : List Char} (plain : ∀ c ∈ digits, c.isDigit = true)
    (some : digits ≠ []) (stops : ∀ c ∈ rest.head?, c.isDigit = false) (negative : Bool) :
    readExponent ('e' :: (if negative then '-' else '+') :: (digits ++ rest)) =
      (Option.some (signed negative (digitsValue (digitList digits))), rest) := by
  have cut := plainDigits_append plain stops
  cases digits with
  | nil => exact absurd rfl some
  | cons digit more =>
      rw [List.cons_append] at cut ⊢
      cases negative <;> simp [readExponent, takeSign, cut]

/-- The digits before the point of a number: a single nought, or digits that do not begin with
one. -/
def IsWhole (whole : List Char) : Prop :=
  whole = ['0'] ∨
    ((∀ c ∈ whole, c.isDigit = true) ∧ ∃ first more, whole = first :: more ∧ first ≠ '0')

theorem isWhole_digitText (value : Nat) : IsWhole (digitText value) := by
  by_cases zero : value = 0
  · left
    rw [zero]
    rfl
  · right
    exact ⟨fun _ => isDigit_of_mem_digitText, head?_digitText (Nat.pos_of_ne_zero zero)⟩

/-- The number that a sign, whole digits, a fraction and an exponent stand for. -/
def numberOf (negative : Bool) (whole : List Char) :
    Option (List Char) → Option Int → Except Failure Scalar
  | none, none =>
    if digitLimit < whole.length then .error (.integerTooLong whole.length)
    else .ok (.int (signed negative (digitsValue (digitList whole))))
  | fraction?, exponent? =>
    .ok (.float (ofDecimal negative (digitList (whole ++ fraction?.getD []))
      (exponent?.getD 0 - (fraction?.getD []).length)))

/-- A number is put together from its sign and its parts. -/
theorem readNumber_parts {whole rest middle after : List Char} {fraction? : Option (List Char)}
    {exponent? : Option Int} (isWhole : IsWhole whole)
    (stops : ∀ c ∈ rest.head?, c.isDigit = false)
    (fraction : readFraction rest = (fraction?, middle))
    (exponent : readExponent middle = (exponent?, after)) (negative : Bool) :
    readNumber ((if negative then ['-'] else []) ++ (whole ++ rest)) =
      (numberOf negative whole fraction? exponent?).map fun number => (number, after) := by
  cases isWhole with
  | inl zero =>
      subst zero
      cases negative <;> cases fraction? <;> cases exponent? <;>
        simp [readNumber, numberOf, fraction, exponent, Except.map, digitLimit]
  | inr digits =>
      obtain ⟨plain, first, more, rfl, notZero⟩ := digits
      have notSign : first ≠ '-' := by
        intro same
        have digit := plain first (by simp)
        simp [same] at digit
      have cut := plainDigits_append plain stops
      rw [List.cons_append] at cut ⊢
      cases negative <;> cases fraction? <;> cases exponent? <;>
        simp [readNumber, numberOf, notSign, notZero, cut, fraction, exponent, Except.map]
      all_goals split <;> rfl

/-! ## Whole numbers -/

theorem signed_natAbs (value : Int) : signed (value < 0) value.natAbs = value := by
  by_cases negative : value < 0
  · simp only [signed, negative, decide_true, if_true]
    omega
  · simp only [signed, negative, decide_false, Bool.false_eq_true, if_false]
    omega

/-- The digits of a whole number are read as that number, with its sign. -/
theorem readNumber_digitText {size : Nat} (short : (digitText size).length ≤ digitLimit)
    (negative : Bool) {rest : List Char} (ends : Ends rest) :
    readNumber ((if negative then ['-'] else []) ++ (digitText size ++ rest)) =
      .ok (.int (signed negative size), rest) := by
  rw [readNumber_parts (isWhole_digitText size) ends.stops (readFraction_of_ends ends)
    (readExponent_of_ends ends) negative]
  simp only [numberOf, Nat.not_lt.mpr short, if_false, digitsValue_digitText, Except.map]

/-! ## Numbers with a fraction -/

/-- Digits and an exponent stand for a decimal. -/
def Stands (decimal : Decimal) (digits : List Nat) (exponent : Int) : Prop :=
  (∀ digit ∈ digits, digit < 10) ∧
    ∃ count : Nat, digitsValue digits = decimal.digits * Nat.pow 10 count ∧
      exponent + count = decimal.exponent

/-- A text with digits on both sides of a point stands for a decimal. -/
structure IsPointed (decimal : Decimal) (whole fraction : List Char) : Prop where
  isWhole : IsWhole whole
  plain : ∀ c ∈ fraction, c.isDigit = true
  some : fraction ≠ []
  stands : Stands decimal (digitList (whole ++ fraction)) (-fraction.length)

theorem readNumber_pointed {decimal : Decimal} {whole fraction : List Char}
    (pointed : IsPointed decimal whole fraction) (negative : Bool) {rest : List Char}
    (ends : Ends rest) :
    ∃ digits exponent, Stands decimal digits exponent ∧
      readNumber ((if negative then ['-'] else []) ++ (whole ++ '.' :: (fraction ++ rest))) =
        .ok (.float (ofDecimal negative digits exponent), rest) := by
  have stops : ∀ c ∈ ('.' :: (fraction ++ rest)).head?, c.isDigit = false := by
    intro c first
    cases first
    rfl
  refine ⟨_, _, pointed.stands, ?_⟩
  rw [readNumber_parts pointed.isWhole stops
    (readFraction_append pointed.plain pointed.some ends.stops) (readExponent_of_ends ends)
    negative]
  simp [numberOf, Except.map]

theorem digitList_append (front back : List Char) :
    digitList (front ++ back) = digitList front ++ digitList back := by
  simp [digitList]

theorem digitList_replicate_zero (count : Nat) :
    digitList (List.replicate count '0') = List.replicate count 0 := by
  simp [digitList]

/-- The digits of a decimal with noughts around them. -/
theorem stands_digits {decimal : Decimal} (before after : Nat) :
    Stands decimal
      (digitList
        (List.replicate before '0' ++ digitText decimal.digits ++ List.replicate after '0'))
      (decimal.exponent - after) := by
  constructor
  · apply digit_lt_of_mem
    intro c member
    simp only [List.mem_append, List.mem_replicate] at member
    obtain (⟨_, rfl⟩ | digit) | ⟨_, rfl⟩ := member
    · rfl
    · exact isDigit_of_mem_digitText digit
    · rfl
  · refine ⟨after, ?_, by omega⟩
    simp only [digitList_append, digitList_replicate_zero, digitsValue_append,
      digitsValue_replicate_zero, digitsValue_digitText, List.length_replicate]
    simp

variable {decimal : Decimal}

theorem isPointed_trailing (positive : decimal.digits ≠ 0) (whole : 0 ≤ decimal.exponent) :
    IsPointed decimal (digitText decimal.digits ++ List.replicate decimal.exponent.toNat '0')
      ['0'] := by
  obtain ⟨first, more, written, notZero⟩ := head?_digitText (Nat.pos_of_ne_zero positive)
  constructor
  · right
    constructor
    · intro c member
      simp only [List.mem_append, List.mem_replicate] at member
      obtain digit | ⟨_, rfl⟩ := member
      · exact isDigit_of_mem_digitText digit
      · rfl
    · exact ⟨first, _, by rw [written, List.cons_append], notZero⟩
  · exact isDigit_of_mem_nought
  · simp
  · have stands := @stands_digits decimal 0 (decimal.exponent.toNat + 1)
    have exponent : decimal.exponent - ((decimal.exponent.toNat + 1 : Nat) : Int) = -1 := by omega
    rw [exponent] at stands
    simpa [List.replicate_succ'] using stands

/-- Some digits of a decimal stand before the point and the others after it. -/
theorem stands_split {place : Nat} {exponent : Int}
    (cut : exponent - ((digitText decimal.digits).drop place).length = decimal.exponent) :
    Stands decimal
      (digitList ((digitText decimal.digits).take place ++ (digitText decimal.digits).drop place))
      (exponent - ((digitText decimal.digits).drop place).length) := by
  have stands := @stands_digits decimal 0 0
  rw [cut, List.take_append_drop]
  simpa using stands

theorem isWhole_take (positive : decimal.digits ≠ 0) {place : Nat} (some : 0 < place) :
    IsWhole ((digitText decimal.digits).take place) := by
  obtain ⟨first, more, written, notZero⟩ := head?_digitText (Nat.pos_of_ne_zero positive)
  obtain ⟨place, rfl⟩ : ∃ less, place = less + 1 := ⟨place - 1, by omega⟩
  right
  constructor
  · intro c member
    exact isDigit_of_mem_digitText (List.mem_of_mem_take member)
  · exact ⟨first, more.take place, by rw [written, List.take_succ_cons], notZero⟩

theorem isPointed_inside (positive : decimal.digits ≠ 0) {place : Nat} (some : 0 < place)
    (less : place < (digitText decimal.digits).length)
    (cut : -(((digitText decimal.digits).drop place).length : Int) = decimal.exponent) :
    IsPointed decimal ((digitText decimal.digits).take place)
      ((digitText decimal.digits).drop place) := by
  constructor
  · exact isWhole_take positive some
  · intro c member
    exact isDigit_of_mem_digitText (List.mem_of_mem_drop member)
  · simpa using less
  · have stands := @stands_split decimal place 0 (by omega)
    rwa [Int.zero_sub] at stands

theorem isPointed_leading (positive : decimal.digits ≠ 0) {count : Nat}
    (cut : -((count + (digitText decimal.digits).length : Nat) : Int) = decimal.exponent) :
    IsPointed decimal ['0'] (List.replicate count '0' ++ digitText decimal.digits) := by
  obtain ⟨first, more, written, notZero⟩ := head?_digitText (Nat.pos_of_ne_zero positive)
  constructor
  · exact .inl rfl
  · intro c member
    simp only [List.mem_append, List.mem_replicate] at member
    obtain ⟨_, rfl⟩ | digit := member
    · rfl
    · exact isDigit_of_mem_digitText digit
  · simp [written]
  · have stands := @stands_digits decimal (count + 1) 0
    simp only [List.replicate_succ, List.replicate_zero, List.append_nil,
      List.cons_append] at stands
    rw [List.length_append, List.length_replicate, cut]
    simpa using stands

theorem readFraction_optional {fraction rest : List Char}
    (plain : ∀ c ∈ fraction, c.isDigit = true) :
    readFraction ((if fraction.isEmpty then [] else '.' :: fraction) ++ 'e' :: rest) =
      (if fraction.isEmpty then none else some fraction, 'e' :: rest) := by
  cases fraction with
  | nil => rfl
  | cons digit more =>
      apply readFraction_append plain (by simp)
      intro c first
      cases first
      rfl

/-- The digits of an exponent, of which there are two at least. -/
def markText (value : Nat) : List Char :=
  if (digitText value).length < 2 then '0' :: digitText value else digitText value

theorem isDigit_of_mem_markText {value : Nat} {c : Char} (member : c ∈ markText value) :
    c.isDigit = true := by
  unfold markText at member
  split at member
  · obtain rfl | digit := List.mem_cons.mp member
    · rfl
    · exact isDigit_of_mem_digitText digit
  · exact isDigit_of_mem_digitText member

theorem digitsValue_markText (value : Nat) : digitsValue (digitList (markText value)) = value := by
  unfold markText
  split
  · have padded : digitList ('0' :: digitText value) = 0 :: digitList (digitText value) := rfl
    rw [padded, digitsValue_cons, digitsValue_digitText, Nat.zero_mul, Nat.zero_add]
  · exact digitsValue_digitText value

theorem markText_ne_nil (value : Nat) : markText value ≠ [] := by
  unfold markText
  split
  · simp
  · next long =>
      intro empty
      rw [empty] at long
      exact long (by decide)

/-- One digit before the point, and an exponent at the end. -/
theorem readNumber_marked (positive : decimal.digits ≠ 0) {exponent : Int}
    (last : exponent - (((digitText decimal.digits).drop 1).length : Int) = decimal.exponent)
    (negative : Bool) {rest : List Char} (ends : Ends rest) :
    ∃ digits exponent', Stands decimal digits exponent' ∧
      readNumber ((if negative then ['-'] else []) ++
          ((digitText decimal.digits).take 1 ++
            ((if ((digitText decimal.digits).drop 1).isEmpty then []
              else '.' :: (digitText decimal.digits).drop 1) ++
            'e' :: (if exponent < 0 then '-' else '+') :: (markText exponent.natAbs ++ rest)))) =
        .ok (.float (ofDecimal negative digits exponent'), rest) := by
  have marked := readExponent_append (fun _ => @isDigit_of_mem_markText exponent.natAbs _)
    (markText_ne_nil _) ends.stops (exponent < 0)
  rw [digitsValue_markText, signed_natAbs] at marked
  simp only [decide_eq_true_eq] at marked
  have fraction := @readFraction_optional ((digitText decimal.digits).drop 1)
    ((if exponent < 0 then '-' else '+') :: (markText exponent.natAbs ++ rest))
    fun c member => isDigit_of_mem_digitText (List.mem_of_mem_drop member)
  have stops : ∀ c ∈ ((if ((digitText decimal.digits).drop 1).isEmpty then []
      else '.' :: (digitText decimal.digits).drop 1) ++
      'e' :: (if exponent < 0 then '-' else '+') :: (markText exponent.natAbs ++ rest)).head?,
      c.isDigit = false := by
    intro c first
    split at first <;> cases first <;> rfl
  refine ⟨_, _, stands_split last, ?_⟩
  rw [readNumber_parts (isWhole_take positive (by decide)) stops fraction marked negative]
  split
  · next empty => simp [numberOf, Except.map, List.isEmpty_iff.mp empty]
  · simp [numberOf, Except.map]

/-- What stands for a decimal, after its sign, is read as digits and an exponent that stand for it
too. -/
theorem readNumber_decimal (positive : decimal.digits ≠ 0) (layout : Layout) (negative : Bool)
    {rest : List Char} (ends : Ends rest) :
    ∃ digits exponent, Stands decimal digits exponent ∧
      readNumber ((if negative then ['-'] else []) ++ (decimal.text layout ++ rest)) =
        .ok (.float (ofDecimal negative digits exponent), rest) := by
  have some : 0 < (digitText decimal.digits).length := by
    obtain ⟨first, more, written, _⟩ := head?_digitText (Nat.pos_of_ne_zero positive)
    simp [written]
  by_cases positional : layout.least ≤ decimal.exponent + (digitText decimal.digits).length - 1 ∧
      decimal.exponent + (digitText decimal.digits).length - 1 ≤ layout.most
  · by_cases whole : 0 ≤ decimal.exponent
    · have text : decimal.text layout =
          digitText decimal.digits ++ List.replicate decimal.exponent.toNat '0' ++ ['.', '0'] := by
        simp only [Decimal.text, if_pos positional, if_pos whole]
      have reads := readNumber_pointed (isPointed_trailing positive whole) negative ends
      rw [text, List.append_assoc]
      exact reads
    · by_cases inside : 0 ≤ decimal.exponent + (digitText decimal.digits).length - 1
      · have text : decimal.text layout =
            (digitText decimal.digits).take
                ((decimal.exponent + (digitText decimal.digits).length - 1).toNat + 1) ++
              '.' :: (digitText decimal.digits).drop
                ((decimal.exponent + (digitText decimal.digits).length - 1).toNat + 1) := by
          simp only [Decimal.text, if_pos positional, if_neg whole, if_pos inside]
        have pointed := isPointed_inside positive
          (show 0 < (decimal.exponent + (digitText decimal.digits).length - 1).toNat + 1 by omega)
          (by omega) (by rw [List.length_drop]; omega)
        rw [text, List.append_assoc]
        exact readNumber_pointed pointed negative ends
      · have text : decimal.text layout =
            '0' :: '.' :: (List.replicate
              ((-(decimal.exponent + (digitText decimal.digits).length - 1)).toNat - 1) '0' ++
                digitText decimal.digits) := by
          simp only [Decimal.text, if_pos positional, if_neg whole, if_neg inside]
        have pointed := isPointed_leading positive (show
          -((((-(decimal.exponent + (digitText decimal.digits).length - 1)).toNat - 1) +
            (digitText decimal.digits).length : Nat) : Int) = decimal.exponent by omega)
        rw [text]
        exact readNumber_pointed pointed negative ends
  · have text : decimal.text layout =
        (digitText decimal.digits).take 1 ++
          (if ((digitText decimal.digits).drop 1).isEmpty then []
            else '.' :: (digitText decimal.digits).drop 1) ++
          'e' ::
            (if decimal.exponent + (digitText decimal.digits).length - 1 < 0 then '-' else '+') ::
            markText (decimal.exponent + (digitText decimal.digits).length - 1).natAbs := by
      simp only [Decimal.text, if_neg positional, markText]
    have reads := @readNumber_marked decimal positive
      (decimal.exponent + (digitText decimal.digits).length - 1)
      (by rw [List.length_drop]; omega) negative rest ends
    rw [text]
    simpa only [List.append_assoc, List.cons_append] using reads

theorem text_eq_cons (positive : decimal.digits ≠ 0) (layout : Layout) :
    ∃ digit rest, digit.isDigit = true ∧ decimal.text layout = digit :: rest := by
  obtain ⟨first, more, written, _⟩ := head?_digitText (Nat.pos_of_ne_zero positive)
  have digit : first.isDigit = true :=
    @isDigit_of_mem_digitText decimal.digits first (by simp [written])
  simp only [Decimal.text, written]
  split
  · split
    · exact ⟨first, _, digit, rfl⟩
    · split
      · exact ⟨first, _, digit, rfl⟩
      · exact ⟨'0', _, rfl, rfl⟩
  · exact ⟨first, _, digit, rfl⟩

/-- The shortest text of a size is read as that size. -/
theorem readNumber_shortest {size : Magnitude} (positive : size.significand ≠ 0) (layout : Layout)
    (negative : Bool) {rest : List Char} (ends : Ends rest) :
    readNumber ((if negative then ['-'] else []) ++ (size.shortest.text layout ++ rest)) =
      .ok (.float (.finite negative size), rest) := by
  have near := Magnitude.near_shortest positive
  have some := Magnitude.digits_ne_zero_of_near positive near
  obtain ⟨digits, exponent, ⟨small, count, value, last⟩, reads⟩ :=
    readNumber_decimal some layout negative ends
  rw [← last, ← Magnitude.near_shift, ← value] at near
  rw [reads, ofDecimal_of_near positive small near]

theorem eq_zero_of_significand {size : Magnitude} (zero : size.significand = 0) : size = .zero := by
  obtain ⟨significand, shift, full, fits, canonical⟩ := size
  cases zero
  have noShift : shift = 0 := canonical.resolve_right (by decide)
  subst noShift
  rfl

theorem toList_text (negative : Bool) (size : Magnitude) (layout : Layout) :
    ((Binary64.finite negative size).text layout).toList =
      (if negative then ['-'] else []) ++
        if size.significand = 0 then ['0', '.', '0'] else size.shortest.text layout := by
  cases negative <;> simp [Binary64.text]

/-- The text of a finite number is read as that number. -/
theorem readNumber_text (negative : Bool) (size : Magnitude) (layout : Layout) {rest : List Char}
    (ends : Ends rest) :
    readNumber (((Binary64.finite negative size).text layout).toList ++ rest) =
      .ok (.float (.finite negative size), rest) := by
  rw [toList_text, List.append_assoc]
  by_cases zero : size.significand = 0
  · have stops : ∀ c ∈ (['.', '0'] ++ rest).head?, c.isDigit = false := by
      intro c first
      cases first
      rfl
    have fraction : readFraction (['.', '0'] ++ rest) = (some ['0'], rest) :=
      readFraction_append isDigit_of_mem_nought (List.cons_ne_nil _ _) ends.stops
    have reads := readNumber_parts (.inl rfl) stops fraction (readExponent_of_ends ends) negative
    rw [if_pos zero, eq_zero_of_significand zero]
    exact reads
  · rw [if_neg zero]
    exact readNumber_shortest zero layout negative ends

theorem toList_text_eq_cons (negative : Bool) (size : Magnitude) (layout : Layout) :
    ∃ digit rest, digit.isDigit = true ∧
      ((Binary64.finite negative size).text layout).toList =
        (if negative then ['-'] else []) ++ digit :: rest := by
  rw [toList_text]
  by_cases zero : size.significand = 0
  · exact ⟨'0', _, rfl, by rw [if_pos zero]⟩
  · have some := Magnitude.digits_ne_zero_of_near zero (Magnitude.near_shortest zero)
    obtain ⟨digit, rest, isDigit, written⟩ := text_eq_cons some layout
    exact ⟨digit, rest, isDigit, by rw [if_neg zero, written]⟩

end Workflow.Json
