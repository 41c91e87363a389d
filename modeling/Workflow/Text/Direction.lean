import Workflow.Text.Mark

/-!
# Directions of writing

In which direction the characters that may stand in names are written. Digits and signs have no direction
of their own and go along with the letters around them, each kind in its own way.
-/

namespace Workflow.Text

/-- How a character takes part in the direction of a text. -/
inductive Direction where
  /-- A letter written from left to right. -/
  | fromLeft
  /-- A letter written from right to left. -/
  | fromRight
  /-- An Arabic letter, written from right to left. -/
  | arabic
  /-- A digit that goes along with Arabic letters. -/
  | arabicDigit
  /-- Any other digit. -/
  | digit
  /-- The hyphen. -/
  | hyphen
  /-- A sign that takes the direction of what stands around it. -/
  | neutral
  /-- A sign that is not seen. -/
  | unseen
  /-- A mark, which takes the direction of what it stands on. -/
  | mark
  deriving DecidableEq

/-- Letters written from right to left, as ranges of code points. -/
def fromRightRanges : List (Nat × Nat) :=
  [(1488, 1514), (1519, 1524), (1984, 2026), (2036, 2037), (2048, 2069), (2074, 2074),
    (2084, 2084), (2088, 2088), (2112, 2136), (67584, 67589), (67592, 67592), (67594, 67637),
    (67639, 67640), (67644, 67644), (67647, 67669), (67680, 67702), (67712, 67742), (67808, 67826),
    (67828, 67829), (67840, 67861), (67872, 67897), (67968, 68023), (68030, 68031), (68096, 68096),
    (68112, 68115), (68117, 68119), (68121, 68149), (68192, 68220), (68224, 68252), (68288, 68295),
    (68297, 68324), (68352, 68405), (68416, 68437), (68448, 68466), (68480, 68497), (68608, 68680),
    (68800, 68850), (69248, 69289), (69296, 69297), (69376, 69404), (69415, 69415), (69488, 69505),
    (69552, 69572), (69600, 69622), (124928, 125124), (125218, 125251), (125259, 125259),
    (125264, 125273)]

/-- Arabic letters, as ranges of code points. -/
def arabicRanges : List (Nat × Nat) :=
  [(1568, 1599), (1601, 1610), (1646, 1647), (1649, 1652), (1657, 1747), (1749, 1749),
    (1765, 1766), (1774, 1775), (1786, 1791), (1808, 1808), (1810, 1839), (1869, 1957),
    (1969, 1969), (2144, 2154), (2160, 2183), (2185, 2190), (2208, 2249), (65139, 65139),
    (68864, 68899), (69424, 69445)]

/-- Signs that take the direction of what stands around them, as ranges of code points. -/
def neutralRanges : List (Nat × Nat) :=
  [(183, 183), (697, 698), (710, 719), (748, 748), (885, 885), (11823, 11823), (12539, 12539),
    (42623, 42623), (42775, 42783), (42888, 42888)]

/-- Characters whose direction is not known, as ranges of code points. -/
def undirectedRanges : List (Nat × Nat) :=
  [(2191, 2191), (2199, 2199), (3164, 3164), (3292, 3292), (3315, 3315), (3790, 3790),
    (6863, 6877), (6880, 6891), (7306, 7306), (42957, 42957), (42959, 42959), (42971, 42971),
    (67008, 67059), (67904, 67929), (68928, 68943), (68969, 68973), (68975, 68997), (69314, 69319),
    (69370, 69375), (70207, 70209), (70528, 70537), (70539, 70539), (70542, 70542), (70544, 70581),
    (70583, 70592), (70594, 70594), (70597, 70597), (70599, 70602), (70604, 70611), (70625, 70626),
    (71376, 71395), (72544, 72551), (72640, 72672), (72688, 72697), (73136, 73179), (73184, 73193),
    (73472, 73488), (73490, 73530), (73534, 73538), (73552, 73562), (78895, 78895), (78912, 78933),
    (78944, 82938), (90368, 90425), (93504, 93548), (93552, 93561), (93883, 93907), (94194, 94195),
    (100344, 100351), (101631, 101631), (101641, 101662), (101760, 101874), (110898, 110898),
    (110933, 110933), (122661, 122666), (123023, 123023), (124112, 124153), (124368, 124410),
    (124608, 124638), (124640, 124661), (124670, 124671), (177977, 177983), (183970, 183981),
    (191472, 192093), (201552, 210041)]

/-- The directions of code points that are few. -/
def directionRanges : List (Nat × Nat × Direction) :=
  [(45, 45, .hyphen), (48, 57, .digit), (1632, 1641, .arabicDigit), (1776, 1785, .digit),
    (8204, 8205, .unseen), (68912, 68921, .arabicDigit)]

/-- Marks that are written from left to right like letters. -/
def markLetters : List Nat :=
  [3263, 3270, 72199, 72200, 72767]

/-- The direction of a character that may stand in a name, if it is known. -/
def direction? (code : Nat) : Option Direction :=
  if inRanges undirectedRanges code then none
  else match directionRanges.find? fun (low, high, _) => low ≤ code && code ≤ high with
    | some (_, _, direction) => some direction
    | none =>
      if inRanges fromRightRanges code then some .fromRight
      else if inRanges arabicRanges code then some .arabic
      else if inRanges neutralRanges code then some .neutral
      else if isNonspacing code && !markLetters.contains code then some .mark
      else some .fromLeft

namespace Direction

/-- Whether a character makes a text run from right to left. -/
def turns : Direction → Bool
  | fromRight | arabic | arabicDigit => true
  | _ => false

/-- Whether a character may begin a text that runs from right to left. -/
def beginsFromRight : Direction → Bool
  | fromRight | arabic => true
  | _ => false

/-- Whether a character may end a text that runs from right to left, or from left to right. -/
def ends (rightToLeft : Bool) : Direction → Bool
  | fromLeft => !rightToLeft
  | fromRight | arabic | arabicDigit => rightToLeft
  | digit => true
  | _ => false

/-- Whether a character may stand in a text that runs from right to left, or from left to right. -/
def fits (rightToLeft : Bool) (direction : Direction) : Bool :=
  if rightToLeft then direction != fromLeft else !direction.turns

end Direction

end Workflow.Text
