/-!
# Bytes as letters

Three bytes are written as four letters of six bits each. What is left over is filled up with equal
signs. Reading passes over all characters that are no letters.
-/

namespace Workflow.Text

/-- The letter of a value of six bits. -/
def sextetLetter (value : Nat) : Char :=
  if value < 26 then Char.ofNat (65 + value)
  else if value < 52 then Char.ofNat (71 + value)
  else if value < 62 then Char.ofNat (value - 4)
  else if value = 62 then '+'
  else '/'

/-- The value of a letter. -/
def sextet? (c : Char) : Option Nat :=
  if c.isUpper then some (c.toNat - 65)
  else if c.isLower then some (c.toNat - 71)
  else if c.isDigit then some (c.toNat + 4)
  else if c = '+' then some 62
  else if c = '/' then some 63
  else none

/-- Bytes written as letters. -/
def base64 : List UInt8 → List Char
  | a :: b :: c :: rest =>
    let code := (a.toNat * 256 + b.toNat) * 256 + c.toNat
    [code / 262144, code / 4096 % 64, code / 64 % 64, code % 64].map sextetLetter ++ base64 rest
  | [a, b] =>
    let code := (a.toNat * 256 + b.toNat) * 4
    [code / 4096, code / 64 % 64, code % 64].map sextetLetter ++ ['=']
  | [a] =>
    let code := a.toNat * 16
    [code / 64, code % 64].map sextetLetter ++ ['=', '=']
  | [] => []

/-- Reads letters from a place within a group of four on: `place` letters of the group are read, `left`
holds the bits of the last of them that belong to the next byte, and `fill` counts the equal signs since
then. A group that is filled up ends the text; one that ends early is refused. -/
def base64From (place left fill : Nat) : List Char → Option (List UInt8)
  | [] => if place = 0 then some [] else none
  | c :: rest =>
    if c = '=' then
      if 2 ≤ place ∧ 4 ≤ place + fill + 1 then some []
      else base64From place left (if 2 ≤ place then fill + 1 else fill) rest
    else match sextet? c with
      | none => base64From place left fill rest
      | some value =>
        if place = 0 then base64From 1 value 0 rest
        else if place = 1 then
          (UInt8.ofNat (left * 4 + value / 16) :: ·) <$> base64From 2 (value % 16) 0 rest
        else if place = 2 then
          (UInt8.ofNat (left * 16 + value / 4) :: ·) <$> base64From 3 (value % 4) 0 rest
        else (UInt8.ofNat (left * 64 + value) :: ·) <$> base64From 0 0 0 rest

/-- The bytes that a text of letters stands for. -/
def base64Decoded? (cs : List Char) : Option (List UInt8) :=
  base64From 0 0 0 cs

/-- The value of a letter is read back. -/
theorem sextet?_sextetLetter {value : Nat} (small : value < 64) :
    sextet? (sextetLetter value) = some value := by
  have all : ∀ value ∈ List.range 64, sextet? (sextetLetter value) = some value := by decide
  exact all value (List.mem_range.2 small)

end Workflow.Text
