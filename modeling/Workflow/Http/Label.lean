import Workflow.Http.Permitted
import Workflow.Http.Punycode
import Workflow.Text.Composition
import Workflow.Text.Direction
import Workflow.Text.Joining
import Workflow.Text.Quoted
import Workflow.Text.Script

/-!
# Labels of host names

A host name is made of labels with dots between them. A label in any script is held to rules: it is a
composed text, hyphens and marks stand in certain places only, each character is permitted or stands where
it is, and a label that runs from right to left holds no letters of the other direction. On the way it is
written in plain letters behind a mark of four characters.
-/

namespace Workflow.Http

/-- The code points of a label. -/
abbrev Label := List Nat

/-- Why a text is no label or no host name. -/
inductive NameError where
  | nameTooLong
  | labelTooLong
  | emptyLabel
  /-- Nothing stands behind the mark of plain letters. -/
  | noContent
  /-- A label in plain letters ends with a hyphen. -/
  | openEnd
  /-- A label in plain letters stands for nothing. -/
  | unreadable
  | notComposed
  /-- Hyphens stand in the third and fourth place. -/
  | innerHyphens
  /-- A hyphen stands at the beginning or the end. -/
  | outerHyphens
  | leadingMark
  /-- A character that no label holds. -/
  | forbidden (label : Label) (place code : Nat)
  /-- A character that does not stand where it may. -/
  | misplaced (label : Label) (place code : Nat)
  /-- A joiner that does not stand where it may. -/
  | joinerMisplaced (label : Label) (place code : Nat)
  /-- A character whose direction is not known. -/
  | undirected (label : Label) (place : Nat)
  /-- The first character is no letter in a label with a direction. -/
  | wrongStart (label : Label)
  /-- A character of the other direction. -/
  | wrongDirection (place : Nat) (rightToLeft : Bool)
  | mixedDigits
  | wrongEnd
  deriving DecidableEq

namespace Label

/-- One code point of a label inside quotes; half a pair of units is written by its code. -/
def quotedCode (quote : Char) (code : Nat) : List Char :=
  if 0xd800 ≤ code && code < 0xe000 then '\\' :: 'u' :: Text.hex 4 code
  else Text.quotedChar quote (Char.ofNat code)

/-- A label in quotes. -/
def quoted (label : Label) : String :=
  let quote := if label.contains 0x27 && !label.contains 0x22 then '"' else '\''
  String.ofList (quote :: (label.flatMap (quotedCode quote) ++ [quote]))

/-- The number of a code point, as messages show it: four digits at least. -/
def codeText (code : Nat) : String :=
  let width := if code < 0x10000 then 4 else if code < 0x100000 then 5 else 6
  "U+" ++ String.ofList ((Text.hex width code).map Char.toUpper)

end Label

/-- The text of an error. -/
def NameError.message : NameError → String
  | nameTooLong => "Domain too long"
  | labelTooLong => "Label too long"
  | emptyLabel => "Empty Label"
  | noContent => "Malformed A-label, no Punycode eligible content found"
  | openEnd => "A-label must not end with a hyphen"
  | unreadable => "Invalid A-label"
  | notComposed => "Label must be in Normalization Form C"
  | innerHyphens => "Label has disallowed hyphens in 3rd and 4th position"
  | outerHyphens => "Label must not start or end with a hyphen"
  | leadingMark => "Label begins with an illegal combining character"
  | forbidden label place code =>
    s!"Codepoint {Label.codeText code} at position {place} of {label.quoted} not allowed"
  | misplaced label place code =>
    s!"Codepoint {Label.codeText code} not allowed at position {place} in {label.quoted}"
  | joinerMisplaced label place code =>
    s!"Unknown codepoint adjacent to joiner {Label.codeText code} at position {place} in {label.quoted}"
  | undirected label place => s!"Unknown directionality in label {label.quoted} at position {place}"
  | wrongStart label => s!"First codepoint in label {label.quoted} must be directionality L, R or AL"
  | wrongDirection place rightToLeft =>
    s!"Invalid direction for codepoint at position {place} in a " ++
      (if rightToLeft then "right-to-left label" else "left-to-right label")
  | mixedDigits => "Can not mix numeral types in a right-to-left label"
  | wrongEnd => "Label ends with illegal codepoint directionality"

namespace Label

/-- The joiners: one that keeps letters apart and one that brings them together. -/
def joiners : List Nat := [0x200c, 0x200d]

/-- Whether letters are joined across the place between two parts of a label. -/
def isJoined (before after : Label) : Bool :=
  (before.reverse.dropWhile Text.isCrossed).head?.any Text.joinsAfter &&
    (after.dropWhile Text.isCrossed).head?.any Text.joinsBefore

/-- Whether a joiner stands where it may: behind a sign that takes the vowel off a letter, or, if it keeps
letters apart, where letters would be joined. -/
def fitsJoiner (before after : Label) (code : Nat) : Bool :=
  before.getLast?.any (Text.combiningClass · = Text.viramaClass) ||
    code = 0x200c && isJoined before after

/-- Whether a character that is permitted in certain places stands in one of them, or nothing if it is not
of that kind: the dot between two `l`, the Greek and Hebrew signs beside letters of their script, the dot of
Japanese, and digits of which there are two rows. -/
def fitsPlace? (label before after : Label) (code : Nat) : Option Bool :=
  let holds (ranges : List (Nat × Nat)) : Bool := label.any (Text.inRanges ranges)
  if code = 0xb7 then some (before.getLast? = some 0x6c && after.head? = some 0x6c)
  else if code = 0x375 then some (after.head?.any (Text.inRanges Text.greekRanges))
  else if code = 0x5f3 || code = 0x5f4 then
    some (before.getLast?.any (Text.inRanges Text.hebrewRanges))
  else if code = 0x30fb then some (holds Text.japaneseRanges)
  else if 0x660 ≤ code && code ≤ 0x669 then some (!holds [(0x6f0, 0x6f9)])
  else if 0x6f0 ≤ code && code ≤ 0x6f9 then some (!holds [(0x660, 0x669)])
  else none

/-- What is wrong with the characters of a label from a place on. -/
def characterError? (label before : Label) : Label → Option NameError
  | [] => none
  | code :: after =>
    let place := before.length + 1
    let error? :=
      if isPermitted code then none
      else if joiners.contains code then
        if fitsJoiner before after code then none else some (.joinerMisplaced label place code)
      else match fitsPlace? label before after code with
        | some true => none
        | some false => some (.misplaced label place code)
        | none => some (.forbidden label place code)
    error?.or (characterError? label (before ++ [code]) after)

/-- What is wrong with the directions of characters from a place on, in a label that runs from right to
left or from left to right. `digits?` is the kind of digits so far, and `ended` tells whether the label may
end here. -/
def directionError? (rightToLeft : Bool) (place : Nat) (digits? : Option Text.Direction)
    (ended : Bool) : List Text.Direction → Option NameError
  | [] => if ended then none else some .wrongEnd
  | direction :: rest =>
    let isDigit := direction = .digit ∨ direction = .arabicDigit
    let ended := if direction = .mark then ended else direction.ends rightToLeft
    if !direction.fits rightToLeft then some (.wrongDirection place rightToLeft)
    else if rightToLeft ∧ isDigit then
      if digits?.any (· ≠ direction) then some .mixedDigits
      else directionError? rightToLeft (place + 1) (some direction) ended rest
    else directionError? rightToLeft (place + 1) digits? ended rest

/-- What is wrong with the direction in which a label is written. -/
def writingError? (label : Label) : Option NameError :=
  let known := label.map Text.direction?
  match known.findIdx? (·.isNone) with
  | some index => some (.undirected label (index + 1))
  | none =>
    let directions := known.filterMap id
    if !directions.any (·.turns) then none
    else match directions with
      | [] => none
      | first :: _ =>
        if first.beginsFromRight then directionError? true 1 none false directions
        else if first = .fromLeft then directionError? false 1 none false directions
        else some (.wrongStart label)

/-- What is wrong with a label. -/
def error? (label : Label) : Option NameError :=
  if label.isEmpty then some .emptyLabel
  else if 254 < label.length then some .labelTooLong
  else if !Text.isComposed label then some .notComposed
  else if (label.drop 2).take 2 = [0x2d, 0x2d] then some .innerHyphens
  else if label.head? = some 0x2d || label.getLast? = some 0x2d then some .outerHyphens
  else if label.head?.any Text.isMark then some .leadingMark
  else (characterError? label [] label).or (writingError? label)

/-- The mark in front of a label that is written in plain letters. -/
def plainMark : List Char := ['x', 'n', '-', '-']

/-- What is wrong with a label that is given in plain characters. -/
def plainError? (label : List Char) : Option NameError :=
  let label := label.map Char.toLower
  if label.take 4 = plainMark then
    let content := label.drop 4
    if content.isEmpty then some .noContent
    else if content.getLast? = some '-' then some .openEnd
    else match Punycode.decode? content with
      | some decoded => error? decoded
      | none => some .unreadable
  else error? (label.map Char.toNat)

/-- A label as it is written on the way. -/
def encode (label : List Char) : Except NameError (List Char) :=
  let codes := label.map Char.toNat
  let isPlain := codes.all (· < 0x80)
  match if isPlain then plainError? label else error? codes with
  | some error => .error error
  | none =>
    let encoded := if isPlain then label else plainMark ++ Punycode.encode codes
    if 63 < encoded.length then .error .labelTooLong else .ok encoded

end Label

/-- The labels of a host name, and whether a dot stands behind the last. -/
def labelsOf (name : List Char) : List (List Char) × Bool :=
  let dots : List Char := ['.', '。', '．', '｡']
  let labels := (name.map fun c => if dots.contains c then '.' else c).splitOn '.'
  if labels.getLast? = some [] then (labels.dropLast, true) else (labels, false)

/-- The length that a host name may have. -/
def longestName (dotted : Bool) : Nat :=
  if dotted then 254 else 253

/-- A host name as it is written on the way. -/
def encodedName (name : List Char) : Except NameError (List Char) := do
  if longestName true < name.length then .error .nameTooLong
  let (labels, dotted) := labelsOf name
  let encoded ← labels.mapM Label.encode
  let whole := List.intercalate ['.'] (if dotted then encoded ++ [[]] else encoded)
  if longestName dotted < whole.length then .error .nameTooLong else .ok whole

/-- What is wrong with a host name in plain characters, some of whose labels stand for others. -/
def plainNameError? (name : List Char) : Option NameError :=
  if longestName true < name.length then some .nameTooLong
  else (labelsOf name).1.findSome? Label.plainError?

end Workflow.Http
