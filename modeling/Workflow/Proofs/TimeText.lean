import Workflow.Proofs.Calendar
import Workflow.Proofs.NumberText
import Workflow.Time.Epoch

/-!
# Times and their texts

The text of a time whose offset is made of whole minutes is read as that time.  The texts of times
in universal time follow each other as the instants do.
-/

namespace Workflow.Time

open Number Json

/-! ## Numbers of a fixed width -/

section Padded

variable {width value : Nat}

theorem isDigit_of_mem_padded {c : Char} (member : c ∈ padded width value) : c.isDigit = true := by
  rw [padded, List.mem_append] at member
  cases member with
  | inl nought => rw [List.eq_of_mem_replicate nought]; rfl
  | inr digit => exact isDigit_of_mem_digitText digit

theorem digitsValue_padded : digitsValue (digitList (padded width value)) = value := by
  have digits := digitsValue_digitText value
  rw [digitText] at digits
  rw [padded, digitList_append, digitsValue_append, digitList_replicate_zero,
    digitsValue_replicate_zero, digits, Nat.zero_mul, Nat.zero_add]

theorem length_padded (some : 0 < width) (fits : value < 10 ^ width) :
    (padded width value).length = width := by
  have short : (digitText value).length ≤ width := by
    rw [digitText_eq_toDigits]
    exact (Nat.length_toDigits_le_iff (by decide) some).mpr fits
  rw [digitText] at short
  rw [padded, List.length_append, List.length_replicate]
  omega

/-- A number that fits into a width is read from its text in that width. -/
theorem readDigits?_padded (some : 0 < width) (fits : value < 10 ^ width) (rest : List Char) :
    readDigits? width (padded width value ++ rest) = .some (value, rest) := by
  have size := length_padded some fits
  have digits : (padded width value).all Char.isDigit = true := by
    rw [List.all_eq_true]
    intro c member
    exact isDigit_of_mem_padded member
  have front : (padded width value ++ rest).take width = padded width value :=
    List.take_left' size
  have back : (padded width value ++ rest).drop width = rest := List.drop_left' size
  have total := @digitsValue_padded width value
  rw [digitsValue, digitList, List.foldl_map] at total
  simp [readDigits?, front, back, size, digits, total]

/-- What stands above a place decides a comparison, and what stands below it where the former is the
same. -/
theorem lt_of_scaled_lt {place front back low low' : Nat} (fits : low' < place)
    (less : front * place + low < back * place + low') :
    front < back ∨ front = back ∧ low < low' := by
  have notLarger : ¬ back + 1 ≤ front := by
    intro larger
    have scaled := Nat.mul_le_mul_right place larger
    rw [Nat.add_mul] at scaled
    omega
  by_cases same : front = back
  · subst same
    exact Or.inr ⟨rfl, by omega⟩
  · exact Or.inl (by omega)

theorem eq_of_digit_eq {c d : Char} (isDigit : c.isDigit = true) (isDigit' : d.isDigit = true)
    (same : c.toNat - 48 = d.toNat - 48) : c = d := by
  simp only [Char.isDigit, Bool.and_eq_true, decide_eq_true_eq] at isDigit isDigit'
  have atLeast : 48 ≤ c.toNat := isDigit.1
  have atLeast' : 48 ≤ d.toNat := isDigit'.1
  exact Char.toNat_inj.mp (by omega)

theorem lt_of_digit_lt {c d : Char} (less : c.toNat - 48 < d.toNat - 48) : c < d := by
  have smaller : c.toNat < d.toNat := by omega
  exact smaller

/-- Digits of one number stand before as many digits of a larger one. -/
theorem lt_of_digitsValue_lt {digits larger : List Char} (plain : ∀ c ∈ digits, c.isDigit = true)
    (plain' : ∀ c ∈ larger, c.isDigit = true) (size : digits.length = larger.length)
    (less : digitsValue (digitList digits) < digitsValue (digitList larger)) : digits < larger := by
  induction digits generalizing larger with
  | nil =>
      rw [List.eq_nil_of_length_eq_zero size.symm] at less
      cases less
  | cons c digits ih =>
      cases larger with
      | nil => cases size
      | cons d larger =>
          obtain ⟨isDigit, plain⟩ := List.forall_mem_cons.mp plain
          obtain ⟨isDigit', plain'⟩ := List.forall_mem_cons.mp plain'
          have same : digits.length = larger.length := Nat.succ.inj size
          have low := digitsValue_lt (digit_lt_of_mem plain')
          simp only [digitList, List.map_cons, digitsValue_cons, List.length_map] at less low
          rw [← same] at less low
          rw [List.cons_lt_cons_iff]
          apply (lt_of_scaled_lt low less).imp
          · exact lt_of_digit_lt
          · intro tied
            exact ⟨eq_of_digit_eq isDigit isDigit' tied.1, ih plain plain' same tied.2⟩

/-- The text of a number stands before that of a larger one in the same width. -/
theorem padded_lt {larger : Nat} (some : 0 < width) (fits : larger < 10 ^ width)
    (less : value < larger) : padded width value < padded width larger := by
  apply lt_of_digitsValue_lt (fun _ => isDigit_of_mem_padded) (fun _ => isDigit_of_mem_padded)
  · rw [length_padded some fits, length_padded some (Nat.lt_trans less fits)]
  · rwa [digitsValue_padded, digitsValue_padded]

end Padded

theorem expect?_cons {allowed : List Char} {c : Char} (expected : c ∈ allowed) (rest : List Char) :
    expect? allowed (c :: rest) = some rest := by
  rw [expect?, if_pos expected]

/-! ## Reading dates and clocks -/

/-- A date is read from its text. -/
theorem Date.read?_text (date : Date) (rest : List Char) :
    Date.read? (date.text ++ rest) = some (date, rest) := by
  match civil : date.civil with
  | (year, month, day) =>
    obtain ⟨year', month', day'⟩ := civil_bounds civil
    simp only [Date.text, civil, Date.read?, List.append_assoc, List.cons_append]
    simp [readDigits?_padded, expect?_cons, year', month', day', ofCivil?_civil civil]

/-- No fraction of a second goes on into what follows. -/
def Closes (rest : List Char) : Prop :=
  ∀ c ∈ rest.head?, c ≠ '.' ∧ c ≠ ',' ∧ c.isDigit = false

theorem readFraction?_nought {rest : List Char} (closes : Closes rest) :
    readFraction? rest = some (0, rest) := by
  cases rest with
  | nil => rfl
  | cons c rest =>
      obtain ⟨notPoint, notComma, _⟩ := closes c rfl
      simp [readFraction?, notPoint, notComma]

theorem readFraction?_padded {fraction : Nat} (fits : fraction < 1000000) {rest : List Char}
    (closes : Closes rest) :
    readFraction? ('.' :: (padded 6 fraction ++ rest)) = some (fraction, rest) := by
  have plain := @plainDigits_append (padded 6 fraction) rest (fun _ => isDigit_of_mem_padded)
    fun c first => (closes c first).2.2
  simp only [plainDigits, Prod.mk.injEq] at plain
  have size := @length_padded 6 fraction (by decide) fits
  have notEmpty : (padded 6 fraction).isEmpty = false := by
    rw [List.isEmpty_eq_false_iff, ← List.length_pos_iff, size]
    decide
  have six (more : List Char) : (padded 6 fraction ++ more).take 6 = padded 6 fraction :=
    List.take_left' size
  have read := @readDigits?_padded 6 fraction (by decide) fits []
  rw [List.append_nil] at read
  simp [readFraction?, plain, notEmpty, six, read]

namespace Timestamp

/-- A time of day is read from its text. -/
theorem readClock?_clockText {time : Nat} (inDay : time < dayMicroseconds) {rest : List Char}
    (closes : Closes rest) : readClock? (clockText time ++ rest) = some (time, rest) := by
  rw [dayMicroseconds] at inDay
  have seconds := Nat.div_add_mod time 1000000
  have fractionLess := Nat.mod_lt time (show 1000000 > 0 by decide)
  simp only [clockText, readClock?, List.append_assoc, List.cons_append]
  generalize time / 1000000 = whole at *
  generalize time % 1000000 = fraction at *
  have reads : readFraction? ((if fraction = 0 then [] else '.' :: padded 6 fraction) ++ rest) =
      some (fraction, rest) := by
    split
    · next nought =>
        rw [nought]
        exact readFraction?_nought closes
    · next => exact readFraction?_padded fractionLess closes
  have hour : whole / 3600 < 24 := by omega
  have minute : whole / 60 % 60 < 60 := Nat.mod_lt _ (by decide)
  have second : whole % 60 < 60 := Nat.mod_lt _ (by decide)
  have hour' : whole / 3600 < 100 := by omega
  have minute' : whole / 60 % 60 < 100 := by omega
  have second' : whole % 60 < 100 := by omega
  have total : (whole / 3600 * 3600 + whole / 60 % 60 * 60 + whole % 60) * 1000000 + fraction =
      time := by omega
  simp [readDigits?_padded, expect?_cons, hour', minute', second', hour, minute, second, guard,
    reads, total]

/-- A clock is ahead of universal time, or behind it, by whole minutes and less than a day. -/
def IsMinutes (offset : Int) : Prop :=
  offset.natAbs < 86400 ∧ offset.natAbs % 60 = 0

instance (offset : Int) : Decidable (IsMinutes offset) :=
  inferInstanceAs (Decidable (_ ∧ _))

theorem readOffset?_signed {sign : Char} (isSign : sign = '+' ∨ sign = '-') {hour minute : Nat}
    (hour' : hour < 24) (minute' : minute < 60) :
    readOffset? (sign :: (padded 2 hour ++ ':' :: padded 2 minute)) =
      some (some (if sign = '+' then ((hour * 3600 + minute * 60 : Nat) : Int)
        else -((hour * 3600 + minute * 60 : Nat) : Int))) := by
  have isSign' : sign = '+' ∨ sign = '-' ∨ sign = '−' := by
    rw [← or_assoc]
    exact Or.inl isSign
  have hours := @readDigits?_padded 2 hour (by decide) (by omega)
  have minutes := @readDigits?_padded 2 minute (by decide) (by omega) []
  rw [List.append_nil] at minutes
  have width := @length_padded 2 hour (by decide) (by omega)
  match written : padded 2 hour, width with
  | [tens, ones], _ =>
    rw [written] at hours
    simp only [List.cons_append, List.nil_append] at hours ⊢
    simp [readOffset?, isSign', hours, expect?_cons, minutes, hour', minute', guard]

/-- An offset of whole minutes is read from its text. -/
theorem readOffset?_offsetText {offset : Int} (minutes : IsMinutes offset) :
    readOffset? (offsetText offset) = some (some offset) := by
  obtain ⟨inDay, whole⟩ := minutes
  have hour : offset.natAbs / 3600 < 24 := by omega
  have minute : offset.natAbs / 60 % 60 < 60 := Nat.mod_lt _ (by decide)
  have total : offset.natAbs / 3600 * 3600 + offset.natAbs / 60 % 60 * 60 = offset.natAbs := by
    omega
  simp only [offsetText, if_pos whole, List.append_nil]
  split
  · next behind =>
      rw [readOffset?_signed (Or.inr rfl) hour minute, total, if_neg (by decide)]
      congr 2
      omega
  · next ahead =>
      rw [readOffset?_signed (Or.inl rfl) hour minute, total, if_pos rfl]
      congr 2
      omega

/-- The clock of a time, if it is known, is apart from universal time by whole minutes. -/
def OnMinutes (time : Timestamp) : Prop :=
  ∀ offset ∈ time.offset, IsMinutes offset

theorem closes_offsetText (offset : Int) : Closes (offsetText offset) := by
  unfold offsetText
  split <;> simp [Closes, Char.isDigit]

theorem ofWall?_wall {time : Timestamp} {wall : Nat} (same : wall = time.wall) :
    ofWall? wall time.offset = some time := by
  subst same
  rw [ofWall?, dif_pos ⟨Int.natCast_nonneg _, time.inCalendar⟩]
  rfl

/-- A time is read from the texts of its date, of its time of day and of its offset. -/
theorem readStandard?_wallText {time : Timestamp} {offset : List Char} (closes : Closes offset)
    (read : readOffset? offset = some time.offset) :
    readStandard? (time.wallText 'T' ++ offset) = some time := by
  have inDay : time.wall % dayMicroseconds < dayMicroseconds := Nat.mod_lt _ (by decide)
  have whole : time.date.day * dayMicroseconds + time.wall % dayMicroseconds = time.wall := by
    rw [show time.date.day = time.wall / dayMicroseconds from rfl]
    exact Nat.div_add_mod' _ _
  have separates : 'T' ∈ ['T', 't', ' ', '_'] := by decide
  simp only [wallText, readStandard?, List.append_assoc, List.cons_append, Date.read?_text,
    Option.bind_eq_bind, Option.bind_some, guard, if_pos separates, Option.pure_def,
    readClock?_clockText inDay closes]
  rw [read, Option.bind_some]
  exact ofWall?_wall whole

/-- A time is read from its text. -/
theorem read?_text {time : Timestamp} (minutes : time.OnMinutes) : read? time.text = some time := by
  have standard : readStandard? time.text.toList = some time := by
    rw [text, String.toList_ofList]
    cases known : time.offset with
    | none => exact readStandard?_wallText (by simp [Closes]) (by rw [known]; rfl)
    | some offset =>
        apply readStandard?_wallText (closes_offsetText offset)
        rw [known]
        exact readOffset?_offsetText (minutes offset known)
  rw [read?, standard, Option.some_or]

/-- A time is read from its text with `Z` for universal time. -/
theorem read?_zuluText {time : Timestamp} (minutes : time.OnMinutes) :
    read? time.zuluText = some time := by
  have standard : readStandard? time.zuluText.toList = some time := by
    rw [zuluText, String.toList_ofList]
    split
    · next known => exact readStandard?_wallText (by simp [Closes]) (by rw [known]; rfl)
    · next known => exact readStandard?_wallText (by simp [Closes]) (by rw [known]; rfl)
    · next offset _ known =>
        apply readStandard?_wallText (closes_offsetText offset)
        rw [known]
        exact readOffset?_offsetText (minutes offset known)
  rw [read?, standard, Option.some_or]

end Timestamp

/-! ## The order of texts -/

theorem append_lt_append {front back rest rest' : List Char} (size : front.length = back.length)
    (less : front < back) : front ++ rest < back ++ rest' := by
  induction front generalizing back with
  | nil =>
      rw [List.eq_nil_of_length_eq_zero size.symm] at less
      exact absurd less (List.lt_irrefl _)
  | cons c front ih =>
      cases back with
      | nil => cases size
      | cons d back =>
          rw [List.cons_append, List.cons_append, List.cons_lt_cons_iff]
          rw [List.cons_lt_cons_iff] at less
          cases less with
          | inl first => exact Or.inl first
          | inr later => exact Or.inr ⟨later.1, ih (Nat.succ.inj size) later.2⟩

theorem cons_lt_cons (c : Char) {rest rest' : List Char} (less : rest < rest') :
    c :: rest < c :: rest' :=
  List.cons_lt_cons_iff.mpr (Or.inr ⟨rfl, less⟩)

/-- Texts that begin with numbers of one width follow each other as the numbers do, and as their
rests do where the numbers are the same. -/
theorem padded_append_lt {width value larger : Nat} {rest rest' : List Char} (some : 0 < width)
    (fits : larger < 10 ^ width) (less : value < larger ∨ value = larger ∧ rest < rest') :
    padded width value ++ rest < padded width larger ++ rest' := by
  cases less with
  | inl smaller =>
      apply append_lt_append
      · rw [length_padded some fits, length_padded some (Nat.lt_trans smaller fits)]
      · exact padded_lt some fits smaller
  | inr same =>
      rw [same.1]
      exact List.append_left_lt same.2

theorem Date.eq_of_day {left right : Date} (day : left.day = right.day) : left = right := by
  cases left
  cases right
  cases day
  rfl

/-- The texts of dates follow each other as the dates do. -/
theorem Date.text_append_lt {date later : Date} (before : date.day < later.day)
    (rest rest' : List Char) : date.text ++ rest < later.text ++ rest' := by
  match civil : date.civil, civil' : later.civil with
  | (year, month, day), (year', month', day') =>
    obtain ⟨yearFits, monthFits, dayFits⟩ := civil_bounds civil'
    simp only [Date.text, civil, civil', List.append_assoc, List.cons_append]
    apply padded_append_lt (by decide) yearFits
    apply (civil_lt civil civil' before).imp_right
    intro sameYear
    apply And.intro sameYear.1 (cons_lt_cons _ _)
    apply padded_append_lt (by decide) monthFits
    apply sameYear.2.imp_right
    intro sameMonth
    exact ⟨sameMonth.1, cons_lt_cons _ (padded_append_lt (by decide) dayFits (Or.inl sameMonth.2))⟩

namespace Timestamp

/-- The texts of times of day follow each other as the times do, with a fraction of a second after
the whole second. -/
theorem clockText_append_lt {time later : Nat} (inDay : later < dayMicroseconds)
    (before : time < later) (zone : List Char) :
    clockText time ++ '+' :: zone < clockText later ++ '+' :: zone := by
  rw [dayMicroseconds] at inDay
  have whole := Nat.div_add_mod time 1000000
  have whole' := Nat.div_add_mod later 1000000
  have fits := Nat.mod_lt time (show 1000000 > 0 by decide)
  have fits' := Nat.mod_lt later (show 1000000 > 0 by decide)
  simp only [clockText, List.append_assoc, List.cons_append]
  generalize time / 1000000 = seconds at *
  generalize time % 1000000 = fraction at *
  generalize later / 1000000 = seconds' at *
  generalize later % 1000000 = fraction' at *
  have fractions (less : fraction < fraction') :
      (if fraction = 0 then [] else '.' :: padded 6 fraction) ++ '+' :: zone <
        (if fraction' = 0 then [] else '.' :: padded 6 fraction') ++ '+' :: zone := by
    rw [if_neg (show fraction' ≠ 0 by omega)]
    split
    · exact List.cons_lt_cons_iff.mpr (Or.inl (by decide))
    · exact cons_lt_cons _ (padded_append_lt (by decide) fits' (Or.inl less))
  have parts : seconds / 3600 < seconds' / 3600 ∨ seconds / 3600 = seconds' / 3600 ∧
      (seconds / 60 % 60 < seconds' / 60 % 60 ∨ seconds / 60 % 60 = seconds' / 60 % 60 ∧
        (seconds % 60 < seconds' % 60 ∨ seconds % 60 = seconds' % 60 ∧ fraction < fraction')) := by
    omega
  apply padded_append_lt (by decide) (show seconds' / 3600 < 100 by omega)
  apply parts.imp_right
  intro sameHour
  apply And.intro sameHour.1 (cons_lt_cons _ _)
  apply padded_append_lt (by decide) (show seconds' / 60 % 60 < 100 by omega)
  apply sameHour.2.imp_right
  intro sameMinute
  apply And.intro sameMinute.1 (cons_lt_cons _ _)
  apply padded_append_lt (by decide) (show seconds' % 60 < 100 by omega)
  exact sameMinute.2.imp_right fun sameSecond => ⟨sameSecond.1, fractions sameSecond.2⟩

/-- The form of a time in universal time has its instant as its reading. -/
theorem toUniversal_eq_ok {time universal : Timestamp} (placed : time.toUniversal = .ok universal) :
    universal.offset = some 0 ∧ (universal.wall : Int) = time.instant := by
  unfold toUniversal ofWall? at placed
  split at placed
  · next found =>
      split at found
      · next inside =>
          cases found
          cases placed
          exact ⟨rfl, Int.toNat_of_nonneg inside.1⟩
      · cases found
  · cases placed

theorem onMinutes_of_toUniversal {time universal : Timestamp}
    (placed : time.toUniversal = .ok universal) : universal.OnMinutes := by
  intro offset known
  rw [(toUniversal_eq_ok placed).1] at known
  cases known
  decide

theorem same_toUniversal {time universal : Timestamp} (aware : time.offset.isSome)
    (placed : time.toUniversal = .ok universal) : time.same universal = true := by
  obtain ⟨zone, wall⟩ := toUniversal_eq_ok placed
  obtain ⟨offset, known⟩ := Option.isSome_iff_exists.mp aware
  have instant : universal.instant = universal.wall := by
    simp [Timestamp.instant, zone]
  simp [same, known, zone, instant, wall]

theorem same_self (time : Timestamp) : time.same time = true := by
  cases known : time.offset <;> simp [same, known]

theorem eq_of_wall {left right : Timestamp} (wall : left.wall = right.wall)
    (offset : left.offset = right.offset) : left = right := by
  cases left
  cases right
  cases wall
  cases offset
  rfl

/-- The texts of times in universal time follow each other as the times do. -/
theorem text_lt_text {time later : Timestamp} (zone : time.offset = some 0)
    (zone' : later.offset = some 0) (before : time.wall < later.wall) : time.text < later.text := by
  have tail : offsetText 0 = '+' :: (offsetText 0).tail := rfl
  have day : time.date.day = time.wall / dayMicroseconds := rfl
  have day' : later.date.day = later.wall / dayMicroseconds := rfl
  rw [String.lt_iff]
  simp only [text, String.toList_ofList, wallText, zone, zone', Option.map_some, Option.getD_some,
    List.append_assoc, List.cons_append]
  have notLater : time.wall / dayMicroseconds ≤ later.wall / dayMicroseconds :=
    Nat.div_le_div_right (Nat.le_of_lt before)
  by_cases sooner : time.date.day < later.date.day
  · exact Date.text_append_lt sooner _ _
  · have sameDay : time.wall / dayMicroseconds = later.wall / dayMicroseconds := by
      rw [day, day'] at sooner
      exact Nat.le_antisymm notLater (Nat.le_of_not_lt sooner)
    have sameDate : time.date = later.date := Date.eq_of_day sameDay
    have clock : time.wall % dayMicroseconds < later.wall % dayMicroseconds := by
      have whole := Nat.div_add_mod time.wall dayMicroseconds
      have whole' := Nat.div_add_mod later.wall dayMicroseconds
      rw [sameDay] at whole
      omega
    rw [sameDate, tail]
    exact List.append_left_lt
      (cons_lt_cons _ (clockText_append_lt (Nat.mod_lt _ (by decide)) clock _))

/-- A time has a form in universal time. -/
def HasUniversal (time : Timestamp) : Prop :=
  ∃ universal, time.toUniversal = .ok universal

/-- The texts of times in universal time tell the order of their instants. -/
theorem text_lt_iff {time later universal universal' : Timestamp}
    (placed : time.toUniversal = .ok universal) (placed' : later.toUniversal = .ok universal') :
    universal.text < universal'.text ↔ time.instant < later.instant := by
  obtain ⟨zone, wall⟩ := toUniversal_eq_ok placed
  obtain ⟨zone', wall'⟩ := toUniversal_eq_ok placed'
  constructor
  · intro less
    by_cases backward : universal'.wall < universal.wall
    · exact absurd (String.lt_trans less (text_lt_text zone' zone backward)) (String.lt_irrefl _)
    · have differ : universal.wall ≠ universal'.wall := by
        intro same
        rw [eq_of_wall same (zone.trans zone'.symm)] at less
        exact absurd less (String.lt_irrefl _)
      omega
  · intro before
    exact text_lt_text zone zone' (by omega)

end Timestamp

end Workflow.Time
