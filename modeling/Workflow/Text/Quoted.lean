import Workflow.Text.Printable
import Workflow.Text.Digit

/-!
# Quoted texts

A text inside a message stands in quotes: single ones, or double ones when it holds single quotes and
no double ones. Inside, the quote and the backslash are escaped, and characters that are not
printable are written by their code.
-/

namespace Workflow.Text

/-- The digit of a value below sixteen. -/
def hexDigit (value : Nat) : Char :=
  if value < 10 then Char.ofNat (48 + value) else Char.ofNat (87 + value)

/-- The lowest `width` digits of a number in base sixteen. -/
def hex : (width : Nat) → (value : Nat) → List Char
  | 0, _ => []
  | width + 1, value => hex width (value / 16) ++ [hexDigit (value % 16)]

/-- One character inside quotes of the given kind. -/
def quotedChar (quote c : Char) : List Char :=
  if c = quote || c = '\\' then ['\\', c]
  else if c = '\n' then ['\\', 'n']
  else if c = '\t' then ['\\', 't']
  else if c = '\r' then ['\\', 'r']
  else if isPrintable c then [c]
  else if c.toNat < 0x100 then '\\' :: 'x' :: hex 2 c.toNat
  else if c.toNat < 0x10000 then '\\' :: 'u' :: hex 4 c.toNat
  else '\\' :: 'U' :: hex 8 c.toNat

/-- A text in quotes. -/
def quoted (s : String) : String :=
  let cs := s.toList
  let quote := if cs.contains '\'' && !cs.contains '"' then '"' else '\''
  String.ofList (quote :: (cs.flatMap (quotedChar quote) ++ [quote]))

/-- One byte inside quotes of the given kind. -/
def quotedByte (quote : Char) (byte : UInt8) : List Char :=
  if byte < 0x80 then quotedChar quote (Char.ofNat byte.toNat)
  else '\\' :: 'x' :: hex 2 byte.toNat

/-- Bytes in quotes, after a letter that tells them from a text. -/
def quotedBytes (content : List UInt8) : String :=
  let quote := if content.contains 0x27 && !content.contains 0x22 then '"' else '\''
  String.ofList ('b' :: quote :: (content.flatMap (quotedByte quote) ++ [quote]))

end Workflow.Text
