import Mathlib.Algebra.Ring.Nat
import Mathlib.Data.Option.Basic
import Workflow.Time.Calendar

/-!
# Days and dates

The year, the month and the day of the month of a date are read back as that date, and dates follow
each other as their years, months and days of the month do.
-/

namespace Workflow.Time

/-! ## Years -/

/-- How many days a year has. -/
def yearLength (year : Nat) : Nat :=
  365 + if isLeapYear year then 1 else 0

theorem sum_monthLengths (year : Nat) : (monthLengths year).sum = yearLength year := by
  unfold monthLengths yearLength
  split <;> rfl

theorem isLeapYear_iff (year : Nat) :
    isLeapYear year = true ↔ 4 ∣ year ∧ (¬ 100 ∣ year ∨ 400 ∣ year) := by
  simp [isLeapYear, Nat.dvd_iff_mod_eq_zero]

/-- The days before a year grow by the length of the year. -/
theorem daysBeforeYear_succ (years : Nat) :
    daysBeforeYear (years + 1 + 1) = daysBeforeYear (years + 1) + yearLength (years + 1) := by
  have fewer : years / 100 ≤ years / 4 := Nat.div_le_div_left (by decide) (by decide)
  have fourth : (100 ∣ years + 1) → 4 ∣ years + 1 := Nat.dvd_trans (by decide)
  have hundredth : (400 ∣ years + 1) → 100 ∣ years + 1 := Nat.dvd_trans (by decide)
  simp only [daysBeforeYear, yearLength, isLeapYear_iff, Nat.add_sub_cancel, Nat.succ_div]
  generalize years / 4 = fours at *
  generalize years / 100 = hundreds at *
  generalize years / 400 = cycles at *
  by_cases byFour : 4 ∣ years + 1
  · by_cases byHundred : 100 ∣ years + 1
    · by_cases byCycle : 400 ∣ years + 1
      · simp only [byFour, byHundred, byCycle, if_true, or_true, and_self]
        omega
      · simp only [byFour, byHundred, byCycle, if_true, if_false, not_true, or_self, and_false]
        omega
    · simp only [byFour, byHundred, mt hundredth byHundred, if_true, if_false, not_false_eq_true,
        true_or, and_self]
      omega
  · simp only [byFour, mt fourth byFour, mt hundredth (mt fourth byFour), if_false, false_and]
    omega

/-- All days of a year lie before those of each later one. -/
theorem daysBeforeYear_mono {year later : Nat} (first : 1 ≤ year) (before : year < later) :
    daysBeforeYear year + yearLength year ≤ daysBeforeYear later := by
  obtain ⟨years, rfl⟩ : ∃ years, year = years + 1 := ⟨year - 1, by omega⟩
  obtain ⟨gap, rfl⟩ := Nat.exists_eq_add_of_lt before
  induction gap with
  | zero => exact Nat.le_of_eq (daysBeforeYear_succ years).symm
  | succ gap ih =>
      have grows := daysBeforeYear_succ (years + 1 + gap)
      have shorter := ih (by omega)
      rw [show years + 1 + (gap + 1) + 1 = years + 1 + gap + 1 + 1 by omega, grows]
      omega

/-- The days before a year whose number is put together from cycles, centuries, fours and single
years. -/
theorem daysBeforeYear_parts {cycles centuries fours years : Nat} (centuryOfCycle : centuries < 4)
    (fourOfCentury : fours < 25) (yearOfFour : years < 4) :
    daysBeforeYear (cycles * 400 + centuries * 100 + fours * 4 + years + 1) =
      146097 * cycles + 36524 * centuries + 1461 * fours + 365 * years := by
  have byFour : (cycles * 400 + centuries * 100 + fours * 4 + years) / 4 =
      cycles * 100 + centuries * 25 + fours := by omega
  have byHundred : (cycles * 400 + centuries * 100 + fours * 4 + years) / 100 =
      cycles * 4 + centuries := by omega
  have byCycle : (cycles * 400 + centuries * 100 + fours * 4 + years) / 400 = cycles := by omega
  simp only [daysBeforeYear, Nat.add_sub_cancel, byFour, byHundred, byCycle]
  omega

/-- A year that closes four years, but no century except the last of a cycle, has a leap day. -/
theorem yearLength_closing {cycles centuries fours : Nat}
    (closing : fours < 24 ∨ fours = 24 ∧ centuries = 3) :
    yearLength (cycles * 400 + centuries * 100 + fours * 4 + 3 + 1) = 366 := by
  have leap : isLeapYear (cycles * 400 + centuries * 100 + fours * 4 + 3 + 1) = true := by
    rw [isLeapYear_iff]
    omega
  rw [yearLength, if_pos leap]

/-- The year of a day is the one that the day lies in. -/
theorem yearAndDay_spec {day year rest : Nat} (cut : yearAndDay day = (year, rest)) :
    1 ≤ year ∧ daysBeforeYear year + rest = day ∧ rest < yearLength year := by
  have cycle := Nat.div_add_mod day 146097
  have century := Nat.div_add_mod (day % 146097) 36524
  have four := Nat.div_add_mod (day % 146097 % 36524) 1461
  have single := Nat.div_add_mod (day % 146097 % 36524 % 1461) 365
  have cycleLess := Nat.mod_lt day (show 146097 > 0 by decide)
  have centuryLess := Nat.mod_lt (day % 146097) (show 36524 > 0 by decide)
  have fourLess := Nat.mod_lt (day % 146097 % 36524) (show 1461 > 0 by decide)
  have singleLess := Nat.mod_lt (day % 146097 % 36524 % 1461) (show 365 > 0 by decide)
  simp only [yearAndDay] at cut
  generalize day / 146097 = cycles at *
  generalize day % 146097 / 36524 = centuries at *
  generalize day % 146097 % 36524 / 1461 = fours at *
  generalize day % 146097 % 36524 % 1461 / 365 = years at *
  generalize day % 146097 % 36524 % 1461 % 365 = left at *
  generalize day % 146097 % 36524 % 1461 = ofFour at *
  generalize day % 146097 % 36524 = ofCentury at *
  generalize day % 146097 = ofCycle at *
  have foursOfCentury : fours < 25 := by omega
  split at cut
  · next closing =>
      cases cut
      by_cases lastCentury : centuries = 4
      · -- the last day of a cycle
        obtain ⟨rfl, rfl⟩ : fours = 0 ∧ years = 0 := by omega
        have before := @daysBeforeYear_parts cycles 3 24 3 (by decide) (by decide) (by decide)
        have length := @yearLength_closing cycles 3 24 (by decide)
        rw [show cycles * 400 + centuries * 100 + 0 * 4 + 0 =
          cycles * 400 + 3 * 100 + 24 * 4 + 3 + 1 by omega, before, length]
        omega
      · -- the last day of four years
        obtain rfl : years = 4 := by omega
        have before :=
          @daysBeforeYear_parts cycles centuries fours 3 (by omega) foursOfCentury (by decide)
        have length := @yearLength_closing cycles centuries fours (by omega)
        rw [show cycles * 400 + centuries * 100 + fours * 4 + 4 =
          cycles * 400 + centuries * 100 + fours * 4 + 3 + 1 from rfl, before, length]
        omega
  · next within =>
      cases cut
      have before := @daysBeforeYear_parts cycles centuries fours years (by omega) foursOfCentury
        (by omega)
      rw [before, yearLength]
      omega

/-! ## Months -/

/-- The month of a day is the one that the day lies in. -/
theorem monthAndDay_spec {lengths : List Nat} {first rest month day : Nat}
    (inside : rest < lengths.sum)
    (cut : monthAndDay first rest lengths = (month, day)) :
    ∃ index length, month = first + index ∧ lengths[index]? = some length ∧ 1 ≤ day ∧ day ≤ length ∧
      (lengths.take index).sum + (day - 1) = rest := by
  induction lengths generalizing first rest with
  | nil => cases inside
  | cons length lengths ih =>
      rw [monthAndDay] at cut
      rw [List.sum_cons] at inside
      split at cut
      · next within =>
          cases cut
          exact ⟨0, length, rfl, rfl, by omega, by omega, by simp⟩
      · next beyond =>
          obtain ⟨index, found, rfl, there, one, most, sum⟩ := ih (by omega) cut
          refine ⟨index + 1, found, by omega, there, one, most, ?_⟩
          rw [List.take_succ_cons, List.sum_cons]
          omega

/-- All days of a month lie before those of each later one. -/
theorem sum_take_mono {lengths : List Nat} {index later length : Nat}
    (found : lengths[index]? = some length)
    (before : index < later) : (lengths.take index).sum + length ≤ (lengths.take later).sum := by
  induction lengths generalizing index later with
  | nil => cases found
  | cons first lengths ih =>
      obtain ⟨place, rfl⟩ : ∃ place, later = place + 1 := ⟨later - 1, by omega⟩
      rw [List.take_succ_cons, List.sum_cons]
      cases index with
      | zero =>
          cases found
          simp
      | succ index =>
          have tail := ih found (Nat.lt_of_succ_lt_succ before)
          rw [List.take_succ_cons, List.sum_cons]
          omega

namespace Date

/-- Where a date lies: in a month of a year, so many days after the first. -/
theorem civil_spec {date : Date} {year month day : Nat} (civil : date.civil = (year, month, day)) :
    ∃ index length, month = index + 1 ∧ 1 ≤ year ∧ (monthLengths year)[index]? = some length ∧
      1 ≤ day ∧ day ≤ length ∧
      daysBeforeYear year + ((monthLengths year).take index).sum + (day - 1) = date.day := by
  unfold Date.civil at civil
  obtain ⟨first, whole, inside⟩ := yearAndDay_spec (show yearAndDay date.day = (_, _) from rfl)
  rw [← sum_monthLengths] at inside
  obtain ⟨index, length, at_, found, one, most, sum⟩ :=
    monthAndDay_spec inside (show monthAndDay 1 _ _ = (_, _) from rfl)
  cases civil
  exact ⟨index, length, by omega, first, found, one, most, by omega⟩

/-- The year, the month and the day of a date are read as that date. -/
theorem ofCivil?_civil {date : Date} {year month day : Nat}
    (civil : date.civil = (year, month, day)) :
    ofCivil? year month day = some date := by
  obtain ⟨index, length, rfl, first, found, one, most, whole⟩ := civil_spec civil
  simp only [ofCivil?, Nat.add_sub_cancel, found, ← List.sum_eq_foldl, whole]
  simp [guard, first, one, most, ofDay?, date.inCalendar]

theorem civil_bounds {date : Date} {year month day : Nat}
    (civil : date.civil = (year, month, day)) :
    year < 10000 ∧ month < 100 ∧ day < 100 := by
  obtain ⟨index, length, rfl, first, found, one, most, whole⟩ := civil_spec civil
  have inCalendar := date.inCalendar
  have most' : length ≤ 31 := by
    have all : ∀ length ∈ monthLengths year, length ≤ 31 := by
      unfold monthLengths
      split <;> decide
    exact all length (List.mem_of_getElem? found)
  have index' : index < 12 := (List.getElem?_eq_some_iff.mp found).1
  have year' : ¬ 10000 ≤ year := by
    intro beyond
    have last : daysBeforeYear 9999 + yearLength 9999 = calendarDays := by decide
    have apart := @daysBeforeYear_mono 9999 year (by decide) (by omega)
    omega
  exact ⟨by omega, by omega, by omega⟩

/-- Dates follow each other as their years, months and days of the month do. -/
theorem civil_lt {date later : Date} {year month day year' month' day' : Nat}
    (civil : date.civil = (year, month, day)) (civil' : later.civil = (year', month', day'))
    (before : date.day < later.day) :
    year < year' ∨ year = year' ∧ (month < month' ∨ month = month' ∧ day < day') := by
  obtain ⟨index, length, rfl, first, found, one, most, whole⟩ := civil_spec civil
  obtain ⟨index', length', rfl, first', found', one', most', whole'⟩ := civil_spec civil'
  have notLaterYear : ¬ year' < year := by
    intro earlier
    have apart := daysBeforeYear_mono first' earlier
    have inside := sum_take_mono found' (List.getElem?_eq_some_iff.mp found').1
    rw [List.take_length, sum_monthLengths] at inside
    omega
  by_cases sooner : year < year'
  · exact Or.inl sooner
  · obtain rfl : year = year' := by omega
    have notLaterMonth : ¬ index' < index := by
      intro earlier
      have apart := sum_take_mono found' earlier
      omega
    by_cases sooner : index < index'
    · exact Or.inr ⟨rfl, Or.inl (by omega)⟩
    · obtain rfl : index = index' := by omega
      exact Or.inr ⟨rfl, Or.inr ⟨rfl, by omega⟩⟩

end Date

end Workflow.Time
