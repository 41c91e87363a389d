import Workflow.Text.Blank

/-!
# Decimal digits

A decimal digit is a character of any script that stands for a number from 0 to 9 in positional
notation; each script has its ten digits in a row. Raised, lowered and circled digits look like
digits and are counted by `isDigitLike`, but have no place value.
-/

namespace Workflow.Text

/-- The code points of the zeros of all scripts; the digits one to nine follow each of them. -/
def zeroDigits : List Nat :=
  [48, 1632, 1776, 1984, 2406, 2534, 2662, 2790, 2918, 3046, 3174, 3302, 3430, 3558, 3664, 3792,
    3872, 4160, 4240, 6112, 6160, 6470, 6608, 6784, 6800, 6992, 7088, 7232, 7248, 42528, 43216,
    43264, 43472, 43504, 43600, 44016, 65296, 66720, 68912, 69734, 69872, 69942, 70096, 70384,
    70736, 70864, 71248, 71360, 71472, 71904, 72016, 72784, 73040, 73120, 92768, 92864, 93008,
    120782, 120792, 120802, 120812, 120822, 123200, 123632, 125264, 130032]

/-- Characters that are digits without place value, as ranges of code points. -/
def unplacedDigitRanges : List (Nat × Nat) :=
  [(178, 179), (185, 185), (4969, 4977), (6618, 6618), (8304, 8304), (8308, 8313), (8320, 8329),
    (9312, 9320), (9332, 9340), (9352, 9360), (9450, 9450), (9461, 9469), (9471, 9471),
    (10102, 10110), (10112, 10120), (10122, 10130), (68160, 68163), (69216, 69224),
    (69714, 69722), (127232, 127242)]

/-- The number that a decimal digit stands for. -/
def digitValue? (c : Char) : Option Nat :=
  (zeroDigits.find? fun first => first ≤ c.toNat && c.toNat < first + 10).map (c.toNat - ·)

/-- Whether a character is a decimal digit of some script. -/
def isDecimalDigit (c : Char) : Bool :=
  (digitValue? c).isSome

/-- Whether a character is a digit of any kind, with or without place value. -/
def isDigitLike (c : Char) : Bool :=
  isDecimalDigit c || inRanges unplacedDigitRanges c.toNat

end Workflow.Text
