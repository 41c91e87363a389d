/-!
# The calendar

Dates of the years 1 to 9999. A date is held as the number of days since the first day of year 1; its
year, month and day of the month are read off that number.
-/

namespace Workflow.Time

/-- How many days the calendar has, from the first day of year 1 to the last of year 9999. -/
def calendarDays : Nat := 3652059

/-- A day of the calendar, counted from the first day of year 1. -/
structure Date where
  day : Nat
  inCalendar : day < calendarDays
  deriving DecidableEq

/-- The day with a given number, if the calendar has it. -/
def Date.ofDay? (day : Nat) : Option Date :=
  if inCalendar : day < calendarDays then some ⟨day, inCalendar⟩ else none

/-- Whether a year has a leap day. -/
def isLeapYear (year : Nat) : Bool :=
  year % 4 == 0 && (year % 100 != 0 || year % 400 == 0)

/-- The lengths of the months of a year. -/
def monthLengths (year : Nat) : List Nat :=
  [31, if isLeapYear year then 29 else 28, 31, 30, 31, 30, 31, 31, 30, 31, 30, 31]

/-- How many days lie before the first day of a year. -/
def daysBeforeYear (year : Nat) : Nat :=
  (year - 1) * 365 + (year - 1) / 4 - (year - 1) / 100 + (year - 1) / 400

/-- The year of a day, and the number of the day within it from 0. -/
def yearAndDay (day : Nat) : Nat × Nat :=
  let cycle := day % 146097
  let centuries := cycle / 36524
  let quads := cycle % 36524 / 1461
  let years := cycle % 36524 % 1461 / 365
  let year := day / 146097 * 400 + centuries * 100 + quads * 4 + years
  -- the last day of a leap year closes its cycle
  if centuries = 4 ∨ years = 4 then (year, 365)
  else (year + 1, cycle % 36524 % 1461 % 365)

/-- The month, from the given number on, and the day of the month of a day within a year. -/
def monthAndDay (month dayOfYear : Nat) : List Nat → Nat × Nat
  | [] => (month, dayOfYear + 1)
  | length :: rest =>
    if dayOfYear < length then (month, dayOfYear + 1)
    else monthAndDay (month + 1) (dayOfYear - length) rest

namespace Date

/-- The year, month and day of the month of a date. -/
def civil (date : Date) : Nat × Nat × Nat :=
  let (year, dayOfYear) := yearAndDay date.day
  let (month, day) := monthAndDay 1 dayOfYear (monthLengths year)
  (year, month, day)

/-- The date with the given year, month and day of the month, if there is one. -/
def ofCivil? (year month day : Nat) : Option Date := do
  let lengths := monthLengths year
  guard (1 ≤ year ∧ 1 ≤ month)
  let length ← lengths[month - 1]?
  guard (1 ≤ day ∧ day ≤ length)
  ofDay? (daysBeforeYear year + (lengths.take (month - 1)).foldl (· + ·) 0 + (day - 1))

end Date

/-- A number with noughts in front up to the given width. -/
def padded (width value : Nat) : List Char :=
  let digits := (Nat.repr value).toList
  List.replicate (width - digits.length) '0' ++ digits

/-- The text of a date, `YYYY-MM-DD`. -/
def Date.text (date : Date) : List Char :=
  let (year, month, day) := date.civil
  padded 4 year ++ '-' :: (padded 2 month ++ '-' :: padded 2 day)

end Workflow.Time
