import Workflow.Time.Calendar

/-!
# Timestamps

A timestamp is a reading of a clock on the wall, in microseconds since the start of year 1, and the
offset of that clock from universal time. A timestamp without an offset is naive; where an instant is
needed, it is read as universal time.
-/

namespace Workflow.Time

/-- How many microseconds a day has. -/
def dayMicroseconds : Nat := 86400 * 1000000

/-- How many microseconds the calendar has. -/
def calendarMicroseconds : Nat := calendarDays * dayMicroseconds

/-- A wall-clock reading in microseconds since the start of year 1, with the offset of the clock in
seconds if it is known. -/
structure Timestamp where
  wall : Nat
  offset : Option Int
  inCalendar : wall < calendarMicroseconds
  deriving DecidableEq

/-- The start of the calendar. -/
instance : Inhabited Timestamp := ⟨⟨0, none, by decide⟩⟩

/-- Why two timestamps cannot be put in order, or one has no form in universal time. -/
inductive TimeError where
  /-- A naive timestamp was compared with one that has an offset. -/
  | mixedComparison
  /-- The universal time lies outside the calendar. -/
  | outOfCalendar
  deriving DecidableEq

namespace Timestamp

/-- The timestamp with the given reading and offset, if the reading lies in the calendar. -/
def ofWall? (wall : Int) (offset : Option Int) : Option Timestamp :=
  if inCalendar : 0 ≤ wall ∧ wall.toNat < calendarMicroseconds then
    some ⟨wall.toNat, offset, inCalendar.2⟩
  else none

/-- The start of a day on a clock without offset. -/
def ofDate (date : Date) : Timestamp :=
  ⟨date.day * dayMicroseconds, none,
    Nat.mul_lt_mul_of_pos_right date.inCalendar (by decide)⟩

/-- The instant of a timestamp in microseconds of universal time; a naive one is read as universal
time. -/
def instant (time : Timestamp) : Int :=
  time.wall - time.offset.getD 0 * 1000000

/-- The same reading with naive times taken to be universal time. -/
def assumeUniversal (time : Timestamp) : Timestamp :=
  { time with offset := some (time.offset.getD 0) }

/-- The same instant on the clock of universal time. -/
def toUniversal (time : Timestamp) : Except TimeError Timestamp :=
  match ofWall? time.instant (some 0) with
  | some universal => .ok universal
  | none => .error .outOfCalendar

/-- The order of two timestamps, which must both have an offset or both be naive. -/
def order (left right : Timestamp) : Except TimeError Ordering :=
  match left.offset, right.offset with
  | none, none => .ok (compare left.wall right.wall)
  | some _, some _ => .ok (compare left.instant right.instant)
  | _, _ => .error .mixedComparison

/-- Whether two timestamps are equal: both naive with one reading, or both of one instant. -/
def same (left right : Timestamp) : Bool :=
  match left.offset, right.offset with
  | none, none => left.wall == right.wall
  | some _, some _ => left.instant == right.instant
  | _, _ => false

/-- The day of a timestamp on its own clock. -/
def date (time : Timestamp) : Date :=
  ⟨time.wall / dayMicroseconds,
    Nat.div_lt_of_lt_mul (Nat.mul_comm calendarDays dayMicroseconds ▸ time.inCalendar)⟩

/-- The text of a time of day, with microseconds when they are not nought. -/
def clockText (microseconds : Nat) : List Char :=
  let seconds := microseconds / 1000000
  let fraction := microseconds % 1000000
  padded 2 (seconds / 3600) ++ ':' :: (padded 2 (seconds / 60 % 60) ++ ':' ::
    (padded 2 (seconds % 60) ++ (if fraction = 0 then [] else '.' :: padded 6 fraction)))

/-- The text of an offset, `+HH:MM`, with seconds when they are not nought. -/
def offsetText (offset : Int) : List Char :=
  let size := offset.natAbs
  (if offset < 0 then '-' else '+') ::
    (padded 2 (size / 3600) ++ ':' :: (padded 2 (size / 60 % 60) ++
      (if size % 60 = 0 then [] else ':' :: padded 2 (size % 60))))

/-- The text of a timestamp without its offset, the date and the time parted by `separator`. -/
def wallText (separator : Char) (time : Timestamp) : List Char :=
  time.date.text ++ separator :: clockText (time.wall % dayMicroseconds)

/-- The text of a timestamp in the standard form, `YYYY-MM-DDTHH:MM:SS+HH:MM`. -/
def text (time : Timestamp) : String :=
  String.ofList (time.wallText 'T' ++ (time.offset.map offsetText).getD [])

/-- The text of a timestamp with a blank between date and time. -/
def spacedText (time : Timestamp) : String :=
  String.ofList (time.wallText ' ' ++ (time.offset.map offsetText).getD [])

/-- The text of a timestamp in the standard form, with `Z` for universal time. -/
def zuluText (time : Timestamp) : String :=
  String.ofList (time.wallText 'T' ++
    match time.offset with
    | none => []
    | some 0 => ['Z']
    | some offset => offsetText offset)

end Timestamp

/-- The number of exactly `count` plain digits at the front of a text, and the rest. -/
def readDigits? (count : Nat) (cs : List Char) : Option (Nat × List Char) :=
  let digits := cs.take count
  if digits.length = count ∧ digits.all Char.isDigit then
    some (digits.foldl (fun total c => 10 * total + (c.toNat - 48)) 0, cs.drop count)
  else none

/-- Drops one expected character. -/
def expect? (allowed : List Char) : List Char → Option (List Char)
  | c :: rest => if c ∈ allowed then some rest else none
  | [] => none

/-- Reads a date, `YYYY-MM-DD`, from the front of a text. -/
def Date.read? (cs : List Char) : Option (Date × List Char) := do
  let (year, cs) ← readDigits? 4 cs
  let cs ← expect? ['-'] cs
  let (month, cs) ← readDigits? 2 cs
  let cs ← expect? ['-'] cs
  let (day, cs) ← readDigits? 2 cs
  return (← Date.ofCivil? year month day, cs)

/-- Reads a fraction of a second in microseconds; digits after the sixth are dropped. -/
def readFraction? : List Char → Option (Nat × List Char)
  | c :: rest =>
    if c = '.' || c = ',' then
      let digits := rest.takeWhile Char.isDigit
      let micro := (digits ++ List.replicate 6 '0').take 6
      if digits.isEmpty then none
      else (readDigits? 6 micro).map fun (value, _) => (value, rest.dropWhile Char.isDigit)
    else some (0, c :: rest)
  | [] => some (0, [])

/-- Reads a time of day in microseconds; seconds and their fraction may be left out. -/
def readClock? (cs : List Char) : Option (Nat × List Char) := do
  let (hour, cs) ← readDigits? 2 cs
  let cs ← expect? [':'] cs
  let (minute, cs) ← readDigits? 2 cs
  guard (hour < 24 ∧ minute < 60)
  match expect? [':'] cs with
  | none => return ((hour * 3600 + minute * 60) * 1000000, cs)
  | some cs =>
    let (second, cs) ← readDigits? 2 cs
    guard (second < 60)
    let (micro, cs) ← readFraction? cs
    return ((hour * 3600 + minute * 60 + second) * 1000000 + micro, cs)

/-- Reads an offset in seconds that takes up the rest of a text: nothing, `Z`, or a sign with hours
and minutes. -/
def readOffset? : List Char → Option (Option Int)
  | [] => some none
  | [c] => if c = 'Z' || c = 'z' then some (some 0) else none
  | sign :: rest => do
    guard (sign = '+' ∨ sign = '-' ∨ sign = '−')
    let (hour, rest) ← readDigits? 2 rest
    let (minute, rest) ← readDigits? 2 ((expect? [':'] rest).getD rest)
    guard (rest.isEmpty ∧ hour < 24 ∧ minute < 60)
    let size : Int := (hour * 3600 + minute * 60 : Nat)
    return some (if sign = '+' then size else -size)

namespace Timestamp

/-- Reads a timestamp in the standard form; a date alone stands for its first instant. -/
def readStandard? (cs : List Char) : Option Timestamp := do
  let (date, rest) ← Date.read? cs
  match rest with
  | [] => return ofDate date
  | separator :: rest =>
    guard (separator ∈ ['T', 't', ' ', '_'])
    let (micro, rest) ← readClock? rest
    let offset ← readOffset? rest
    ofWall? (date.day * dayMicroseconds + micro : Nat) offset

end Timestamp

end Workflow.Time
