/-!
# Names in plain letters

A name in any script is written with letters, digits and hyphens. Its plain characters come first, then a
hyphen, then a number for each other character, in the order of their codes. Such a number counts the
places and codes that are passed since the character before. Its digits have base thirty-six, with the
lowest first, and the last is told by being below a threshold, which is moved to suit the size of the
numbers so far.
-/

namespace Workflow.Http.Punycode

/-- The threshold at a place, which grows by thirty-six with each digit. -/
def threshold (place bias : Nat) : Nat :=
  min 26 (max 1 (place - bias))

/-- What the thresholds are moved by, for a number brought to scale. -/
def settled (scaled : Nat) : Nat :=
  if 455 < scaled then 36 + settled (scaled / 35) else 36 * scaled / (scaled + 38)
termination_by scaled

/-- How the thresholds are moved behind a number, when so many characters are placed. -/
def adapted (number size : Nat) (isFirst : Bool) : Nat :=
  let scaled := number / (if isFirst then 700 else 2)
  settled (scaled + scaled / size)

/-- How the thresholds are moved at first. -/
def firstBias : Nat := 72

/-- The letter or digit of a value below thirty-six. -/
def digitChar (value : Nat) : Char :=
  Char.ofNat (if value < 26 then 97 + value else 22 + value)

/-- The value of a letter or a digit. -/
def digitValue? (c : Char) : Option Nat :=
  if c.isAlpha then some (c.toLower.toNat - 97)
  else if c.isDigit then some (c.toNat - 22)
  else none

theorem one_le_threshold (place bias : Nat) : 1 ≤ threshold place bias := by
  unfold threshold
  omega

/-- The digits of a number from a place on. -/
def digits (value place bias : Nat) : List Char :=
  if value < threshold place bias then [digitChar value]
  else
    let extra := value - threshold place bias
    let base := 36 - threshold place bias
    digitChar (threshold place bias + extra % base) :: digits (extra / base) (place + 36) bias
termination_by value
decreasing_by
  have low := one_le_threshold place bias
  have quotient := Nat.div_le_self (value - threshold place bias) (36 - threshold place bias)
  omega

/-- What is carried along while numbers are written: what the next number counts so far, how many
characters are placed, and how the thresholds are moved. -/
structure Writing where
  count : Nat
  placed : Nat
  bias : Nat

/-- Writes the number of each place in a text that has the given code, in a text of which `plain` characters
are plain. -/
def writeCode (plain code : Nat) : Writing → List Nat → List Char × Writing
  | writing, [] => ([], writing)
  | writing, other :: rest =>
    if other < code then writeCode plain code { writing with count := writing.count + 1 } rest
    else if other = code then
      let size := writing.placed + 1
      let bias := adapted writing.count size (writing.placed == plain)
      let (more, ended) := writeCode plain code ⟨0, size, bias⟩ rest
      (digits writing.count 36 writing.bias ++ more, ended)
    else writeCode plain code writing rest

/-- Writes the numbers of codes in rising order, of which `least` is the lowest that is possible. -/
def writeCodes (text : List Nat) (plain least : Nat) (writing : Writing) : List Nat → List Char
  | [] => []
  | code :: rest =>
    let passed := writing.count + (code - least) * (writing.placed + 1)
    let (shown, ended) := writeCode plain code { writing with count := passed } text
    shown ++ writeCodes text plain (code + 1) { ended with count := ended.count + 1 } rest

/-- A text written in plain letters. -/
def encode (text : List Nat) : List Char :=
  let plain := text.filter (· < 0x80)
  let codes := ((text.filter (0x80 ≤ ·)).mergeSort (· ≤ ·)).eraseDups
  plain.map Char.ofNat ++ (if plain.isEmpty then [] else ['-']) ++
    writeCodes text plain.length 0x80 ⟨0, plain.length, firstBias⟩ codes

/-- What is carried along while numbers are read: the text so far, the code and the place from which the
number counts, how the thresholds are moved, and the place, the weight and the sum of the number's digits. -/
structure Reading where
  text : List Nat
  code : Nat
  start : Nat
  bias : Nat
  isFirst : Bool
  place : Nat
  weight : Nat
  sum : Nat

/-- Puts in the character that a number stands for, if there is one. -/
def Reading.placed? (reading : Reading) (number : Nat) : Option Reading :=
  let size := reading.text.length + 1
  let code := reading.code + (reading.start + number) / size
  let index := (reading.start + number) % size
  if 0x10ffff < code then none
  else
    some ⟨reading.text.take index ++ code :: reading.text.drop index, code, index + 1,
      adapted number size reading.isFirst, false, 36, 1, 0⟩

/-- Reads the digits of numbers and puts in the characters that they stand for. -/
def readDigits (reading : Reading) : List Nat → Option (List Nat)
  | [] => if reading.place = 36 then some reading.text else none
  | digit :: rest =>
    let sum := reading.sum + digit * reading.weight
    let limit := threshold reading.place reading.bias
    if digit < limit then
      match reading.placed? sum with
      | some placed => readDigits placed rest
      | none => none
    else
      readDigits { reading with
        place := reading.place + 36, weight := reading.weight * (36 - limit), sum := sum } rest

/-- The text that plain letters stand for, if they do. -/
def decode? (letters : List Char) : Option (List Nat) := do
  let coded := (letters.reverse.takeWhile (· ≠ '-')).reverse
  let plain := (letters.take (letters.length - coded.length)).dropLast
  let values ← coded.mapM digitValue?
  readDigits ⟨plain.map Char.toNat, 0x80, 0, firstBias, true, 36, 1, 0⟩ values

end Workflow.Http.Punycode
