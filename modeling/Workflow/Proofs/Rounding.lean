import Mathlib.Algebra.Ring.Nat
import Workflow.Number.Shortest
import Workflow.Number.Numeral

/-!
# Numbers and the decimals near them

Every quotient that lies as near to a size as `quarterRange` says is rounded to that size.  The
decimal that `shortest` chooses lies there, and there always is such a decimal of at most seventeen
digits.
-/

namespace Workflow.Number

/-! ## Rounding -/

/-- A quotient no farther than a half from a whole number is rounded to it, and a half off only to
an even one. -/
theorem roundQuotient_eq {numerator denominator whole : Nat} (positive : 0 < denominator)
    (lower : 2 * (denominator * whole) ≤ 2 * numerator + denominator)
    (upper : 2 * numerator ≤ 2 * (denominator * whole) + denominator)
    (ties : whole % 2 = 1 → 2 * (denominator * whole) < 2 * numerator + denominator ∧
      2 * numerator < 2 * (denominator * whole) + denominator) :
    roundQuotient numerator denominator = whole := by
  have cut := Nat.div_add_mod numerator denominator
  have less := Nat.mod_lt numerator positive
  simp only [roundQuotient]
  generalize numerator / denominator = quotient at *
  generalize numerator % denominator = remainder at *
  have near : quotient = whole ∨ quotient + 1 = whole := by
    have notAbove : ¬ whole + 1 ≤ quotient := by
      intro above
      have product := Nat.mul_le_mul_left denominator above
      rw [Nat.mul_add] at product
      omega
    have notBelow : ¬ quotient + 2 ≤ whole := by
      intro below
      have product := Nat.mul_le_mul_left denominator below
      rw [Nat.mul_add] at product
      omega
    omega
  cases near with
  | inl same =>
      subst same
      split
      · rfl
      · split <;> omega
  | inr next =>
      subst next
      rw [Nat.mul_add] at lower upper ties
      split
      · omega
      · split <;> omega

namespace Magnitude

/-- A quotient of units lies in the range that rounds to a size. -/
def Covers (size : Magnitude) (numerator denominator : Nat) : Prop :=
  if size.quarterRange.2.2 then
    size.quarterRange.1 * denominator ≤ 4 * numerator ∧
      4 * numerator ≤ size.quarterRange.2.1 * denominator
  else
    size.quarterRange.1 * denominator < 4 * numerator ∧
      4 * numerator < size.quarterRange.2.1 * denominator

/-- Whether a quotient lies in the range does not depend on the way it is written. -/
theorem Covers.scaled {size : Magnitude} {numerator denominator numerator' denominator' : Nat}
    (covers : size.Covers numerator denominator) (positive : 0 < denominator)
    (positive' : 0 < denominator')
    (same : numerator * denominator' = numerator' * denominator) :
    size.Covers numerator' denominator' := by
  have cross (bound : Nat) :
      bound * denominator * denominator' = bound * denominator' * denominator := by
    rw [Nat.mul_right_comm]
  have quarter : 4 * numerator * denominator' = 4 * numerator' * denominator := by
    rw [Nat.mul_assoc, same, Nat.mul_assoc]
  unfold Covers at covers ⊢
  split at covers
  · next closed =>
      rw [if_pos closed]
      constructor
      · have low := Nat.mul_le_mul_right denominator' covers.1
        rw [cross, quarter] at low
        exact Nat.le_of_mul_le_mul_right low positive
      · have high := Nat.mul_le_mul_right denominator' covers.2
        rw [cross, quarter] at high
        exact Nat.le_of_mul_le_mul_right high positive
  · next opened =>
      rw [if_neg opened]
      constructor
      · have low := Nat.mul_lt_mul_of_pos_right covers.1 positive'
        rw [cross, quarter] at low
        exact Nat.lt_of_mul_lt_mul_right low
      · have high := Nat.mul_lt_mul_of_pos_right covers.2 positive'
        rw [cross, quarter] at high
        exact Nat.lt_of_mul_lt_mul_right high

/-- How far the range of a size reaches down, in quarters of its last place. -/
def reach (size : Magnitude) : Nat :=
  if size.significand = Nat.pow 2 52 && 0 < size.shift then 1 else 2

theorem reach_le (size : Magnitude) : size.reach ≤ 2 := by
  unfold reach
  split <;> decide

theorem quarterRange_low (size : Magnitude) (denominator : Nat) :
    size.quarterRange.1 * denominator =
      4 * (size.significand * (Nat.pow 2 size.shift * denominator)) -
        size.reach * (Nat.pow 2 size.shift * denominator) := by
  simp only [quarterRange, reach, units]
  split <;> rw [Nat.sub_mul] <;> simp only [Nat.mul_assoc, Nat.one_mul]

theorem quarterRange_high (size : Magnitude) (denominator : Nat) :
    size.quarterRange.2.1 * denominator =
      4 * (size.significand * (Nat.pow 2 size.shift * denominator)) +
        2 * (Nat.pow 2 size.shift * denominator) := by
  simp only [quarterRange, units]
  rw [Nat.add_mul]
  simp only [Nat.mul_assoc]

/-- The range of a size in terms of its significand and its last place. -/
theorem Covers.bounds {size : Magnitude} {numerator denominator place : Nat}
    (covers : size.Covers numerator denominator)
    (last : Nat.pow 2 size.shift * denominator = place) :
    4 * (size.significand * place) ≤ 4 * numerator + size.reach * place ∧
      4 * numerator ≤ 4 * (size.significand * place) + 2 * place ∧
      (size.significand % 2 = 1 →
        4 * (size.significand * place) < 4 * numerator + size.reach * place ∧
          4 * numerator < 4 * (size.significand * place) + 2 * place) := by
  rw [Covers, quarterRange_low, quarterRange_high, last] at covers
  split at covers
  · next closed =>
      have even : size.significand % 2 = 0 := by simpa [quarterRange] using closed
      omega
  · omega

theorem ofParts?_self (size : Magnitude) : ofParts? size.significand size.shift = some size := by
  rw [ofParts?, dif_pos size.canonical]

theorem log2_sub_of_lt {value : Nat} (small : value < Nat.pow 2 53) : Nat.log2 value - 52 = 0 := by
  by_cases zero : value = 0
  · simp [zero]
  · have less := (Nat.log2_lt zero).mpr small
    omega

theorem log2_sub_of_between {value shift : Nat} (low : Nat.pow 2 (52 + shift) ≤ value)
    (high : value < Nat.pow 2 (53 + shift)) : Nat.log2 value - 52 = shift := by
  have positive : 0 < Nat.pow 2 (52 + shift) := Nat.pow_pos (by decide)
  have less := (Nat.log2_lt (show value ≠ 0 by omega)).mpr high
  have least := (Nat.le_log2 (show value ≠ 0 by omega)).mpr low
  omega

theorem between_div {numerator denominator shift : Nat} (positive : 0 < denominator)
    (low : Nat.pow 2 52 * (Nat.pow 2 shift * denominator) ≤ numerator)
    (high : numerator < Nat.pow 2 53 * (Nat.pow 2 shift * denominator)) :
    Nat.log2 (numerator / denominator) - 52 = shift := by
  apply log2_sub_of_between
  · rw [Nat.le_div_iff_mul_le positive, Nat.pow_eq, Nat.pow_add, Nat.mul_assoc]
    exact low
  · rw [Nat.div_lt_iff_lt_mul positive, Nat.pow_eq, Nat.pow_add, Nat.mul_assoc]
    exact high

theorem nearest?_of_shift {size : Magnitude} {numerator denominator : Nat}
    (positive : 0 < denominator) (covers : size.Covers numerator denominator)
    (shift : Nat.log2 (numerator / denominator) - 52 = size.shift) :
    nearest? numerator denominator = some size := by
  obtain ⟨lower, upper, odd⟩ := covers.bounds rfl
  have place : 0 < Nat.pow 2 size.shift * denominator :=
    Nat.mul_pos (Nat.pow_pos (by decide)) positive
  have slack := Nat.mul_le_mul_right (Nat.pow 2 size.shift * denominator) size.reach_le
  have rounded :
      roundQuotient numerator (denominator * Nat.pow 2 size.shift) = size.significand := by
    rw [Nat.mul_comm denominator]
    rw [Nat.mul_comm size.significand] at lower upper odd
    apply roundQuotient_eq place
    · omega
    · omega
    · intro isOdd
      have strict := odd isOdd
      omega
  have less : size.significand ≠ Nat.pow 2 53 := Nat.ne_of_lt size.canonical.1
  simp only [nearest?, shift, rounded, if_neg less, ofParts?_self]

/-- What lies in the range of a size is rounded to that size. -/
theorem nearest?_of_covers {size : Magnitude} {numerator denominator : Nat}
    (positive : 0 < denominator) (covers : size.Covers numerator denominator) :
    nearest? numerator denominator = some size := by
  obtain ⟨lower, upper, odd⟩ := covers.bounds rfl
  obtain ⟨full, fits, canonical⟩ := size.canonical
  have place : 0 < Nat.pow 2 size.shift * denominator :=
    Nat.mul_pos (Nat.pow_pos (by decide)) positive
  have below := Nat.mul_le_mul_right (Nat.pow 2 size.shift * denominator) full
  rw [Nat.succ_mul] at below
  by_cases smallest : size.shift = 0
  · apply nearest?_of_shift positive covers
    have one : Nat.pow 2 size.shift * denominator = denominator := by
      rw [smallest]
      exact Nat.one_mul denominator
    rw [one] at below upper
    rw [smallest]
    apply log2_sub_of_lt
    rw [Nat.div_lt_iff_lt_mul positive]
    omega
  have normal : Nat.pow 2 52 ≤ size.significand := canonical.resolve_left smallest
  by_cases above : Nat.pow 2 52 * (Nat.pow 2 size.shift * denominator) ≤ numerator
  · exact nearest?_of_shift positive covers (between_div positive above (by omega))
  -- only a power of two reaches below itself, to where the last place is half as wide
  have power : size.significand = Nat.pow 2 52 := by
    apply Nat.le_antisymm _ normal
    rw [← Nat.not_lt]
    intro more
    have product := Nat.mul_le_mul_right (Nat.pow 2 size.shift * denominator) more
    have reach : size.reach = 2 := by
      simp [reach, Nat.ne_of_gt more]
    rw [Nat.succ_mul] at product
    rw [reach] at lower
    omega
  obtain ⟨shift, next⟩ : ∃ shift, size.shift = shift + 1 := ⟨size.shift - 1, by omega⟩
  have reach : size.reach = 1 := by
    simp [reach, power, next]
  have twice : Nat.pow 2 size.shift * denominator = 2 * (Nat.pow 2 shift * denominator) := by
    rw [next, Nat.pow_eq, Nat.pow_succ, Nat.mul_comm (2 ^ shift), Nat.mul_assoc]
    rfl
  have half : 0 < Nat.pow 2 shift * denominator := Nat.mul_pos (Nat.pow_pos (by decide)) positive
  have whole : Nat.pow 2 52 * (2 * (Nat.pow 2 shift * denominator)) =
      Nat.pow 2 53 * (Nat.pow 2 shift * denominator) := by
    rw [← Nat.mul_assoc]
  rw [reach, power, twice, whole] at lower
  rw [twice, whole] at above
  have half53 : Nat.pow 2 53 * (Nat.pow 2 shift * denominator) =
      2 * (Nat.pow 2 52 * (Nat.pow 2 shift * denominator)) := by
    rw [← Nat.mul_assoc 2]
  have least : Nat.pow 2 shift * denominator ≤ Nat.pow 2 52 * (Nat.pow 2 shift * denominator) :=
    Nat.le_mul_of_pos_left _ (by decide)
  have log : Nat.log2 (numerator / denominator) - 52 = shift :=
    between_div positive (by omega) (by omega)
  have rounded : roundQuotient numerator (denominator * Nat.pow 2 shift) = Nat.pow 2 53 := by
    rw [Nat.mul_comm denominator]
    rw [Nat.mul_comm (Nat.pow 2 53)] at lower above
    apply roundQuotient_eq half
    · omega
    · omega
    · intro odd
      exact absurd odd (by decide)
  have parts := ofParts?_self size
  rw [power, next] at parts
  simp only [nearest?, log, rounded, if_true, parts]

/-! ## Decimals -/

/-- A decimal lies in the range that rounds to a size. -/
def Near (size : Magnitude) (digits : Nat) (exponent : Int) : Prop :=
  size.Covers (digits * Nat.pow 10 exponent.toNat * unitsPerOne) (Nat.pow 10 (-exponent).toNat)

/-- Noughts at the end of the digits count for the exponent. -/
theorem near_shift {size : Magnitude} {digits count : Nat} {exponent : Int} :
    size.Near (digits * Nat.pow 10 count) exponent ↔ size.Near digits (exponent + count) := by
  have powers : count + exponent.toNat + (-(exponent + count)).toNat =
      (exponent + count).toNat + (-exponent).toNat := by
    omega
  have same : digits * Nat.pow 10 count * Nat.pow 10 exponent.toNat * unitsPerOne *
        Nat.pow 10 (-(exponent + count)).toNat =
      digits * Nat.pow 10 (exponent + count).toNat * unitsPerOne *
        Nat.pow 10 (-exponent).toNat := by
    have product :
        Nat.pow 10 count * Nat.pow 10 exponent.toNat * Nat.pow 10 (-(exponent + count)).toNat =
          Nat.pow 10 (exponent + count).toNat * Nat.pow 10 (-exponent).toNat := by
      simp only [Nat.pow_eq, ← Nat.pow_add, powers]
    rw [Nat.mul_right_comm _ unitsPerOne, Nat.mul_right_comm _ unitsPerOne, Nat.mul_assoc digits,
      Nat.mul_assoc digits, product, ← Nat.mul_assoc digits]
  constructor
  · intro near
    exact Covers.scaled near (Nat.pow_pos (by decide)) (Nat.pow_pos (by decide)) same
  · intro near
    exact Covers.scaled near (Nat.pow_pos (by decide)) (Nat.pow_pos (by decide)) same.symm

/-- The distance of neighbouring decimals with so much in their exponent, in quarter units, over
`gridDown`. -/
def gridUp (exponent : Int) : Nat :=
  if 0 ≤ exponent then Nat.pow 10 exponent.toNat * (4 * unitsPerOne) else 4 * unitsPerOne

/-- What `gridUp` is divided by. -/
def gridDown (exponent : Int) : Nat :=
  if 0 ≤ exponent then 1 else Nat.pow 10 (-exponent).toNat

/-- Whether a decimal lies in the range that rounds to a size. -/
def isInside (size : Magnitude) (exponent : Int) (point : Nat) : Bool :=
  if size.quarterRange.2.2 then
    size.quarterRange.1 * gridDown exponent ≤ point * gridUp exponent &&
      point * gridUp exponent ≤ size.quarterRange.2.1 * gridDown exponent
  else
    size.quarterRange.1 * gridDown exponent < point * gridUp exponent &&
      point * gridUp exponent < size.quarterRange.2.1 * gridDown exponent

/-- The decimal nearest to a size, counted in steps of the grid. -/
def closest (size : Magnitude) (exponent : Int) : Nat :=
  let centre := 4 * size.units * gridDown exponent
  let floor := centre / gridUp exponent
  let below := centre - floor * gridUp exponent
  let above := (floor + 1) * gridUp exponent - centre
  if below < above then floor else if above < below then floor + 1 else floor + floor % 2

/-- The other neighbour of a size on the grid. -/
def fartherOf (size : Magnitude) (exponent : Int) : Nat :=
  let floor := 4 * size.units * gridDown exponent / gridUp exponent
  if size.closest exponent = floor then floor + 1 else floor

/-- The decimal at a point of the grid. -/
def decimalAt (width : Int) (count point : Nat) : Decimal :=
  if point = Nat.pow 10 count then ⟨1, width⟩ else ⟨point, width - count⟩

theorem withDigits?_eq (size : Magnitude) (width : Int) (count : Nat) :
    size.withDigits? width count =
      if size.isInside (width - count) (size.closest (width - count)) then
        some (decimalAt width count (size.closest (width - count)))
      else if size.isInside (width - count) (size.fartherOf (width - count)) then
        some (decimalAt width count (size.fartherOf (width - count)))
      else none := rfl

theorem unitsPerOne_pos : 0 < unitsPerOne := by
  decide +kernel

theorem gridUp_eq (exponent : Int) :
    gridUp exponent = 4 * (Nat.pow 10 exponent.toNat * unitsPerOne) := by
  unfold gridUp
  split
  · rw [Nat.mul_left_comm]
  · next negative =>
      have zero : exponent.toNat = 0 := by omega
      rw [zero, Nat.pow_eq, Nat.pow_zero, Nat.one_mul]

theorem gridDown_eq (exponent : Int) : gridDown exponent = Nat.pow 10 (-exponent).toNat := by
  unfold gridDown
  split
  · next positive =>
      have zero : (-exponent).toNat = 0 := by omega
      rw [zero, Nat.pow_eq, Nat.pow_zero]
  · rfl

theorem isInside_iff {size : Magnitude} {exponent : Int} {point : Nat} :
    size.isInside exponent point = true ↔ size.Near point exponent := by
  have place : point * gridUp exponent = 4 * (point * Nat.pow 10 exponent.toNat * unitsPerOne) := by
    rw [gridUp_eq, Nat.mul_left_comm, Nat.mul_assoc point]
  unfold isInside Near Covers
  rw [place, gridDown_eq]
  split <;> simp

theorem near_decimalAt {size : Magnitude} {width : Int} {count point : Nat}
    (near : size.Near point (width - count)) :
    size.Near (decimalAt width count point).digits (decimalAt width count point).exponent := by
  unfold decimalAt
  split
  · next power =>
      rw [power, ← Nat.one_mul (Nat.pow 10 count)] at near
      have shifted := near_shift.mp near
      rw [Int.sub_add_cancel] at shifted
      exact shifted
  · exact near

/-- What is chosen among the decimals with so many digits lies in the range. -/
theorem near_of_withDigits? {size : Magnitude} {width : Int} {count : Nat} {decimal : Decimal}
    (chosen : size.withDigits? width count = some decimal) :
    size.Near decimal.digits decimal.exponent := by
  rw [withDigits?_eq] at chosen
  split at chosen
  · next inside =>
      cases chosen
      exact near_decimalAt (isInside_iff.mp inside)
  · split at chosen
    · next inside =>
        cases chosen
        exact near_decimalAt (isInside_iff.mp inside)
    · cases chosen

/-- The nearest decimal is at most half a step of the grid away. -/
theorem closest_bounds (size : Magnitude) (exponent : Int) :
    2 * (4 * size.units * gridDown exponent) ≤
        2 * (size.closest exponent * gridUp exponent) + gridUp exponent ∧
      2 * (size.closest exponent * gridUp exponent) ≤
        2 * (4 * size.units * gridDown exponent) + gridUp exponent := by
  have up : 0 < gridUp exponent := by
    rw [gridUp_eq]
    exact Nat.mul_pos (by decide) (Nat.mul_pos (Nat.pow_pos (by decide)) unitsPerOne_pos)
  have cut := Nat.div_add_mod (4 * size.units * gridDown exponent) (gridUp exponent)
  have less := Nat.mod_lt (4 * size.units * gridDown exponent) up
  simp only [closest]
  generalize 4 * size.units * gridDown exponent = centre at *
  generalize gridUp exponent = step at *
  rw [Nat.mul_comm step] at cut
  have next : (centre / step + 1) * step = centre / step * step + step := Nat.succ_mul _ _
  rw [next]
  generalize centre / step = floor at *
  split
  · omega
  · split
    · omega
    · have parity : floor % 2 = 0 ∨ floor % 2 = 1 := by omega
      cases parity with
      | inl even => rw [even, Nat.add_zero]; omega
      | inr odd => rw [odd]; omega

/-- A size is no smaller than a power of ten. -/
def AtLeast (size : Magnitude) (power : Int) : Prop :=
  Nat.pow 10 power.toNat * unitsPerOne ≤ size.units * Nat.pow 10 (-power).toNat

/-- The first guess at the width of a size of which the logarithm in base two is known. -/
def guessedWidth (log : Nat) : Int :=
  ((log : Int) - 1074) * 30103 / 100000

theorem guessedWidth_le : ∀ log < 2098,
    Nat.pow 10 (guessedWidth log - 1).toNat * unitsPerOne ≤
      Nat.pow 2 log * Nat.pow 10 (-(guessedWidth log - 1)).toNat := by
  decide +kernel

theorem units_pos {size : Magnitude} (positive : size.significand ≠ 0) : 0 < size.units :=
  Nat.mul_pos (Nat.pos_of_ne_zero positive) (Nat.pow_pos (by decide))

theorem units_lt (size : Magnitude) : size.units < 2 ^ (53 + size.shift) := by
  rw [Nat.pow_add]
  exact Nat.mul_lt_mul_of_pos_right size.canonical.1 (Nat.pow_pos (by decide))

theorem log2_units_lt {size : Magnitude} (positive : size.significand ≠ 0) :
    Nat.log2 size.units < 2098 := by
  have log := (Nat.log2_lt (Nat.ne_of_gt (units_pos positive))).mpr size.units_lt
  have fits := size.canonical.2.1
  omega

/-- Whether a size is smaller than a power of ten. -/
def isBelow (size : Magnitude) (power : Int) : Bool :=
  if 0 ≤ power then size.units < Nat.pow 10 power.toNat * unitsPerOne
  else size.units * Nat.pow 10 (-power).toNat < unitsPerOne

theorem decimalWidth_eq (size : Magnitude) :
    size.decimalWidth =
      if size.isBelow (guessedWidth (Nat.log2 size.units)) then guessedWidth (Nat.log2 size.units)
      else if size.isBelow (guessedWidth (Nat.log2 size.units) + 1) then
        guessedWidth (Nat.log2 size.units) + 1
      else guessedWidth (Nat.log2 size.units) + 2 := rfl

theorem atLeast_of_not_isBelow {size : Magnitude} {power : Int}
    (larger : ¬ size.isBelow power = true) : size.AtLeast power := by
  unfold AtLeast
  unfold isBelow at larger
  split at larger
  · next positive =>
      have zero : (-power).toNat = 0 := by omega
      have one : Nat.pow 10 0 = 1 := rfl
      rw [zero, one, Nat.mul_one]
      simpa using larger
  · next negative =>
      have zero : power.toNat = 0 := by omega
      have one : Nat.pow 10 0 = 1 := rfl
      rw [zero, one, Nat.one_mul]
      simpa using larger

/-- The width of a size has no digits to spare. -/
theorem atLeast_decimalWidth {size : Magnitude} (positive : size.significand ≠ 0) :
    size.AtLeast (size.decimalWidth - 1) := by
  rw [decimalWidth_eq]
  split
  · have guess := guessedWidth_le _ (log2_units_lt positive)
    have least : Nat.pow 2 (Nat.log2 size.units) ≤ size.units :=
      Nat.log2_self_le (Nat.ne_of_gt (units_pos positive))
    have scaled := Nat.mul_le_mul_right
      (Nat.pow 10 (-(guessedWidth (Nat.log2 size.units) - 1)).toNat) least
    unfold AtLeast
    exact Nat.le_trans guess scaled
  · next larger =>
      split
      · rw [Int.add_sub_cancel]
        exact atLeast_of_not_isBelow larger
      · next larger =>
          have power : guessedWidth (Nat.log2 size.units) + 2 - 1 =
              guessedWidth (Nat.log2 size.units) + 1 := by omega
          rw [power]
          exact atLeast_of_not_isBelow larger

/-- Decimals of seventeen digits lie closer together than the sizes do. -/
theorem gridUp_lt {size : Magnitude} {width : Int}
    (atLeast : size.AtLeast (width - 1)) :
    gridUp (width - 17) <
      2 * (size.reach * (Nat.pow 2 size.shift * gridDown (width - 17))) := by
  have place : 0 < Nat.pow 2 size.shift * gridDown (width - 17) := by
    rw [gridDown_eq]
    exact Nat.mul_pos (Nat.pow_pos (by decide)) (Nat.pow_pos (by decide))
  have fine : gridUp (width - 17) * Nat.pow 10 16 ≤
      4 * (size.significand * (Nat.pow 2 size.shift * gridDown (width - 17))) := by
    have exponents : (width - 17).toNat + 16 + (-(width - 1)).toNat =
        (width - 1).toNat + (-(width - 17)).toNat := by
      omega
    have powers : Nat.pow 10 (width - 17).toNat * Nat.pow 10 16 * Nat.pow 10 (-(width - 1)).toNat =
        Nat.pow 10 (width - 1).toNat * Nat.pow 10 (-(width - 17)).toNat := by
      simp only [Nat.pow_eq, ← Nat.pow_add, exponents]
    have some : 0 < Nat.pow 10 (-(width - 1)).toNat := Nat.pow_pos (by decide)
    unfold AtLeast units at atLeast
    rw [gridUp_eq, gridDown_eq]
    generalize Nat.pow 10 (-(width - 1)).toNat = scale at *
    generalize Nat.pow 10 (width - 1).toNat = least at *
    generalize Nat.pow 10 (width - 17).toNat = up at *
    generalize Nat.pow 10 (-(width - 17)).toNat = down at *
    generalize Nat.pow 10 16 = digits at *
    generalize Nat.pow 2 size.shift = gap at *
    generalize unitsPerOne = one at *
    apply Nat.le_of_mul_le_mul_right _ some
    calc 4 * (up * one) * digits * scale = 4 * one * (up * digits * scale) := by ac_rfl
      _ = 4 * down * (least * one) := by rw [powers]; ac_rfl
      _ ≤ 4 * down * (size.significand * gap * scale) := Nat.mul_le_mul_left _ atLeast
      _ = 4 * (size.significand * (gap * down)) * scale := by ac_rfl
  obtain ⟨full, _, _⟩ := size.canonical
  generalize gridUp (width - 17) = up at *
  generalize Nat.pow 2 size.shift * gridDown (width - 17) = unit at *
  simp only [reach]
  split
  · next power =>
      simp only [Bool.and_eq_true, decide_eq_true_eq] at power
      rw [power.1] at fine
      have high : Nat.pow 2 52 = 4503599627370496 := rfl
      have ten : Nat.pow 10 16 = 10000000000000000 := rfl
      rw [high, ten] at fine
      omega
  · have most := Nat.mul_le_mul_right unit full
    have high : Nat.pow 2 53 = 9007199254740992 := rfl
    have ten : Nat.pow 10 16 = 10000000000000000 := rfl
    rw [Nat.succ_mul, high] at most
    rw [ten] at fine
    omega

/-- Seventeen digits always do. -/
theorem isInside_closest {size : Magnitude} {width : Int} (positive : size.significand ≠ 0)
    (atLeast : size.AtLeast (width - 1)) :
    size.isInside (width - 17) (size.closest (width - 17)) = true := by
  have step := gridUp_lt atLeast
  obtain ⟨low, high⟩ := size.closest_bounds (width - 17)
  have reach := Nat.mul_le_mul_right (Nat.pow 2 size.shift * gridDown (width - 17)) size.reach_le
  have least := Nat.le_mul_of_pos_left (Nat.pow 2 size.shift * gridDown (width - 17))
    (Nat.pos_of_ne_zero positive)
  have centre : 4 * size.units * gridDown (width - 17) =
      4 * (size.significand * (Nat.pow 2 size.shift * gridDown (width - 17))) := by
    rw [units, Nat.mul_assoc, Nat.mul_assoc]
  rw [centre] at low high
  unfold isInside
  rw [quarterRange_low, quarterRange_high]
  split <;> simp only [Bool.and_eq_true, decide_eq_true_eq] <;> omega

/-- The decimal that is chosen lies in the range. -/
theorem near_shortest {size : Magnitude} (positive : size.significand ≠ 0) :
    size.Near size.shortest.digits size.shortest.exponent := by
  have last : size.withDigits? size.decimalWidth 17 ≠ none := by
    rw [withDigits?_eq]
    have inside := isInside_closest positive (atLeast_decimalWidth positive)
    simp [inside]
  simp only [shortest]
  cases chosen : (List.range 17).findSome? fun count =>
      size.withDigits? size.decimalWidth (count + 1) with
  | none =>
      rw [List.findSome?_eq_none_iff] at chosen
      exact absurd (chosen 16 (by decide)) last
  | some decimal =>
      obtain ⟨count, _, found⟩ := List.exists_of_findSome?_eq_some chosen
      exact near_of_withDigits? found

end Magnitude

/-! ## Rows of digits -/

theorem foldl_digits (init : Nat) (digits : List Nat) :
    digits.foldl (fun total digit => 10 * total + digit) init =
      init * 10 ^ digits.length + digitsValue digits := by
  induction digits generalizing init with
  | nil => simp [digitsValue]
  | cons digit rest ih =>
      simp only [digitsValue, List.foldl_cons, List.length_cons]
      rw [ih, ih (10 * 0 + digit), Nat.pow_succ]
      simp only [Nat.add_mul, Nat.mul_zero, Nat.zero_add, Nat.add_assoc]
      congr 1
      ac_rfl

theorem digitsValue_cons (digit : Nat) (rest : List Nat) :
    digitsValue (digit :: rest) = digit * 10 ^ rest.length + digitsValue rest := by
  rw [digitsValue, List.foldl_cons, Nat.mul_zero, Nat.zero_add, foldl_digits]

theorem digitsValue_append (front back : List Nat) :
    digitsValue (front ++ back) = digitsValue front * 10 ^ back.length + digitsValue back := by
  rw [digitsValue, List.foldl_append, foldl_digits]
  rfl

theorem digitsValue_replicate_zero (count : Nat) : digitsValue (List.replicate count 0) = 0 := by
  induction count with
  | zero => rfl
  | succ count ih => rw [List.replicate_succ, digitsValue_cons, ih, Nat.zero_mul]

theorem digitsValue_dropWhile (digits : List Nat) :
    digitsValue (digits.dropWhile (· = 0)) = digitsValue digits := by
  induction digits with
  | nil => rfl
  | cons digit rest ih =>
      by_cases zero : digit = 0
      · subst zero
        simpa [digitsValue_cons] using ih
      · simp [zero]

theorem digitsValue_lt {digits : List Nat} (small : ∀ digit ∈ digits, digit < 10) :
    digitsValue digits < 10 ^ digits.length := by
  induction digits with
  | nil => decide
  | cons digit rest ih =>
      have tail := ih fun other member => small other (by simp [member])
      have head := Nat.mul_le_mul_right (10 ^ rest.length) (show digit ≤ 9 by
        have := small digit (by simp)
        omega)
      rw [digitsValue_cons, List.length_cons, Nat.pow_succ]
      omega

theorem le_digitsValue_dropWhile {digits : List Nat} (some : digitsValue digits ≠ 0) :
    (digits.dropWhile (· = 0)) ≠ [] ∧
      10 ^ ((digits.dropWhile (· = 0)).length - 1) ≤ digitsValue digits := by
  rw [← digitsValue_dropWhile] at some ⊢
  cases left : digits.dropWhile (· = 0) with
  | nil => rw [left] at some; exact absurd rfl some
  | cons digit rest =>
      have first : digit ≠ 0 := by
        have head := List.head?_dropWhile_not (· = 0) digits
        simpa [left] using head
      have one := Nat.mul_le_mul_right (10 ^ rest.length) (Nat.pos_of_ne_zero first)
      rw [digitsValue_cons, List.length_cons, Nat.add_sub_cancel]
      exact ⟨by simp, by omega⟩

/-! ## Reading decimals -/

namespace Magnitude

variable {size : Magnitude} {digits length : Nat} {exponent : Int}

theorem place_pos (size : Magnitude) (exponent : Int) :
    0 < Nat.pow 2 size.shift * Nat.pow 10 (-exponent).toNat :=
  Nat.mul_pos (Nat.pow_pos (by decide)) (Nat.pow_pos (by decide))

/-- A decimal near a size other than nought is no smaller than half its last place. -/
theorem place_le_of_near (positive : size.significand ≠ 0) (near : size.Near digits exponent) :
    Nat.pow 2 size.shift * Nat.pow 10 (-exponent).toNat ≤
      2 * (digits * Nat.pow 10 exponent.toNat * unitsPerOne) := by
  obtain ⟨low, _, _⟩ := Covers.bounds near rfl
  have reach :=
    Nat.mul_le_mul_right (Nat.pow 2 size.shift * Nat.pow 10 (-exponent).toNat) size.reach_le
  have least := Nat.le_mul_of_pos_left (Nat.pow 2 size.shift * Nat.pow 10 (-exponent).toNat)
    (Nat.pos_of_ne_zero positive)
  omega

theorem digits_ne_zero_of_near (positive : size.significand ≠ 0)
    (near : size.Near digits exponent) :
    digits ≠ 0 := by
  intro zero
  have some := place_le_of_near positive near
  have place := size.place_pos exponent
  rw [zero, Nat.zero_mul, Nat.zero_mul] at some
  omega

theorem largest_lt : Nat.pow 2 53 * Nat.pow 2 2045 ≤ Nat.pow 10 400 * unitsPerOne := by
  decide +kernel

theorem smallest_gt : 2 * unitsPerOne ≤ Nat.pow 10 401 := by
  decide +kernel

/-- A decimal near a size is not too large for the format. -/
theorem width_le_of_near (near : size.Near digits exponent) (long : 10 ^ (length - 1) ≤ digits) :
    length + exponent ≤ 400 := by
  rw [← Int.not_lt]
  intro wide
  obtain ⟨_, high, _⟩ := Covers.bounds near rfl
  obtain ⟨full, fits, _⟩ := size.canonical
  have place := size.place_pos exponent
  have most := Nat.mul_le_mul_right (Nat.pow 2 size.shift * Nat.pow 10 (-exponent).toNat) full
  rw [Nat.succ_mul] at most
  have larger := largest_lt
  generalize 2045 = widest at fits larger
  have gap : Nat.pow 2 size.shift ≤ Nat.pow 2 widest := Nat.pow_le_pow_right (by decide) fits
  have exponents : 400 + (-exponent).toNat ≤ length - 1 + exponent.toNat := by omega
  have powers : Nat.pow 10 400 * Nat.pow 10 (-exponent).toNat ≤
      10 ^ (length - 1) * Nat.pow 10 exponent.toNat := by
    simp only [Nat.pow_eq, ← Nat.pow_add]
    exact Nat.pow_le_pow_right (by decide) exponents
  generalize Nat.pow 10 400 = top at *
  generalize Nat.pow 2 widest = widest at *
  generalize Nat.pow 2 53 = whole at *
  generalize unitsPerOne = one at *
  generalize Nat.pow 10 exponent.toNat = up at *
  generalize Nat.pow 10 (-exponent).toNat = down at *
  have chain : whole * (Nat.pow 2 size.shift * down) ≤ digits * up * one :=
    calc whole * (Nat.pow 2 size.shift * down)
        ≤ whole * (widest * down) := Nat.mul_le_mul_left _ (Nat.mul_le_mul_right _ gap)
      _ = whole * widest * down := by rw [Nat.mul_assoc]
      _ ≤ top * one * down := Nat.mul_le_mul_right _ larger
      _ = top * down * one := by rw [Nat.mul_right_comm]
      _ ≤ 10 ^ (length - 1) * up * one := Nat.mul_le_mul_right _ powers
      _ ≤ digits * up * one := Nat.mul_le_mul_right _ (Nat.mul_le_mul_right _ long)
  omega

/-- A decimal near a size other than nought is not too small for the format. -/
theorem le_width_of_near (positive : size.significand ≠ 0) (near : size.Near digits exponent)
    (short : digits < 10 ^ length) : -400 ≤ length + exponent := by
  rw [← Int.not_lt]
  intro narrow
  have some := place_le_of_near positive near
  have exponents : 401 + (length + exponent.toNat) ≤ (-exponent).toNat := by omega
  have powers : Nat.pow 10 401 * (10 ^ length * Nat.pow 10 exponent.toNat) ≤
      Nat.pow 10 (-exponent).toNat := by
    simp only [Nat.pow_eq, ← Nat.pow_add]
    exact Nat.pow_le_pow_right (by decide) exponents
  have smaller := smallest_gt
  have unit : 0 < unitsPerOne := unitsPerOne_pos
  have some' : 0 < Nat.pow 10 exponent.toNat := Nat.pow_pos (by decide)
  have gap : 0 < Nat.pow 2 size.shift := Nat.pow_pos (by decide)
  generalize Nat.pow 10 401 = top at *
  generalize unitsPerOne = one at *
  generalize Nat.pow 10 exponent.toNat = up at *
  generalize Nat.pow 10 (-exponent).toNat = down at *
  have chain : Nat.pow 2 size.shift * down < Nat.pow 2 size.shift * down :=
    calc Nat.pow 2 size.shift * down
        ≤ 2 * (digits * up * one) := some
      _ < 2 * (10 ^ length * up * one) := by
          apply (Nat.mul_lt_mul_left (by decide)).mpr
          exact Nat.mul_lt_mul_of_pos_right (Nat.mul_lt_mul_of_pos_right short some') unit
      _ = 2 * one * (10 ^ length * up) := by ac_rfl
      _ ≤ top * (10 ^ length * up) := Nat.mul_le_mul_right _ smaller
      _ ≤ down := powers
      _ ≤ Nat.pow 2 size.shift * down := Nat.le_mul_of_pos_left _ gap
  exact Nat.lt_irrefl _ chain

end Magnitude

theorem ofUnits_of_nearest? {size : Magnitude} {numerator denominator : Nat}
    (nearest : Magnitude.nearest? numerator denominator = some size) (negative : Bool) :
    Binary64.ofUnits negative numerator denominator = .finite negative size := by
  unfold Binary64.ofUnits
  split
  · next found =>
      rw [nearest] at found
      cases found
      rfl
  · next missing =>
      rw [nearest] at missing
      cases missing

theorem ofRatio_of_covers {size : Magnitude} {numerator denominator : Nat}
    (positive : 0 < denominator) (covers : size.Covers (numerator * unitsPerOne) denominator)
    (negative : Bool) : Binary64.ofRatio negative numerator denominator = .finite negative size :=
  ofUnits_of_nearest? (Magnitude.nearest?_of_covers positive covers) negative

/-- A decimal near a size is rounded to it. -/
theorem ofRatio_of_near {size : Magnitude} {value : Nat} {exponent : Int}
    (near : size.Near value exponent) (negative : Bool) :
    (if 0 ≤ exponent then Binary64.ofRatio negative (value * Nat.pow 10 exponent.toNat) 1
      else Binary64.ofRatio negative value (Nat.pow 10 (-exponent).toNat)) =
        .finite negative size := by
  have one : Nat.pow 10 0 = 1 := rfl
  unfold Magnitude.Near at near
  split
  · next whole =>
      rw [Int.toNat_of_nonpos (Int.neg_nonpos_of_nonneg whole), one] at near
      exact ofRatio_of_covers (by decide) near negative
  · next fraction =>
      rw [Int.toNat_of_nonpos (Int.le_of_lt (Int.not_le.mp fraction)), one, Nat.mul_one] at near
      exact ofRatio_of_covers (Nat.pow_pos (by decide)) near negative

/-- Digits that stand for a decimal near a size are read as that size. -/
theorem ofDecimal_of_near {size : Magnitude} (positive : size.significand ≠ 0) {digits : List Nat}
    (small : ∀ digit ∈ digits, digit < 10) {exponent : Int}
    (near : size.Near (digitsValue digits) exponent) (negative : Bool) :
    ofDecimal negative digits exponent = .finite negative size := by
  have small' : ∀ digit ∈ digits.dropWhile (· = 0), digit < 10 := fun digit member =>
    small digit ((List.dropWhile_sublist _).mem member)
  have bound := digitsValue_lt small'
  obtain ⟨some, least⟩ := le_digitsValue_dropWhile (Magnitude.digits_ne_zero_of_near positive near)
  rw [digitsValue_dropWhile] at bound
  have narrow := Magnitude.width_le_of_near near least
  have wide := Magnitude.le_width_of_near positive near bound
  have inside : ¬ (((digits.dropWhile (· = 0)).isEmpty || decide
      (((digits.dropWhile (· = 0)).length : Int) + exponent < -400)) = true) := by
    simp [some]
    omega
  simp only [ofDecimal, digitsValue_dropWhile]
  rw [if_neg inside, if_neg (by omega)]
  exact ofRatio_of_near near negative

end Workflow.Number
