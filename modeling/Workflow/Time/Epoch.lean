import Workflow.Number.Numeral
import Workflow.Time.Timestamp

/-!
# Counts of seconds

A timestamp may be given as the count of seconds since the start of 1970 in universal time, whole or with
a fraction. Counts beyond twenty thousand million are taken as milliseconds.
-/

namespace Workflow.Time

open Number

/-- The start of 1970, in seconds since the start of year 1. -/
def epochSeconds : Int := 62135596800

/-- Counts beyond this one are milliseconds. -/
def largestSeconds : Nat := 20000000000

namespace Timestamp

/-- The timestamp of a count of microseconds since the start of 1970. -/
def ofEpochMicroseconds? (count : Int) : Option Timestamp :=
  ofWall? (epochSeconds * 1000000 + count) (some 0)

/-- The timestamp of a whole count. -/
def ofEpoch? (count : Int) : Option Timestamp :=
  ofEpochMicroseconds? (if count.natAbs ≤ largestSeconds then count * 1000000 else count * 1000)

/-- The timestamp of a floating-point count: the whole seconds below it, and the rest rounded to
microseconds, a half away from nought. -/
def ofFloatEpoch? (count : Binary64) : Option Timestamp := do
  let size ← count.magnitude?
  let inSeconds ←
    if largestSeconds * unitsPerOne < size.units then count.div? (.ofRatio false 1000 1)
    else some count
  let seconds ← inSeconds.floor?
  let rest := inSeconds.sub (.ofRatio (seconds < 0) seconds.natAbs 1)
  let micros ← (rest.mul (.ofRatio false 1000000 1)).magnitude?
  ofEpochMicroseconds?
    (seconds * 1000000 + ((2 * micros.units + unitsPerOne) / (2 * unitsPerOne) : Nat))

/-- The timestamp of a count in plain digits with a sign if need be. With a point in it, it is a
floating-point number. -/
def ofEpochText? (cs : List Char) : Option Timestamp :=
  let (negative, body) := takeSign cs
  if body.isEmpty then none
  else if body.all Char.isDigit then
    ofEpoch? (signed negative (digitsValue (body.map fun c => c.toNat - 48)))
  else if (body.dropWhile Char.isDigit).head? = some '.' then
    (readPlainFloat? cs).bind ofFloatEpoch?
  else none

/-- Reads a timestamp: the standard form, or a count. -/
def read? (text : String) : Option Timestamp :=
  (readStandard? text.toList).or (ofEpochText? text.toList)

end Timestamp

end Workflow.Time
