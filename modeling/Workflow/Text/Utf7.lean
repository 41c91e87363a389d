import Workflow.Text.Base64
import Workflow.Text.Encoding

/-!
# Texts in plain bytes

Characters beyond the plain ones are written as units of sixteen bits, six bits to a letter, between a plus
sign and a hyphen or any other character that is no such letter. What is not well formed is replaced.
-/

namespace Workflow.Text

/-- What is carried along inside a run of letters: the bits that make no unit yet, how many they are, and the
first unit of a pair whose second is still to come. -/
structure Run where
  bits : Nat
  count : Nat
  first? : Option Nat

/-- The run before its first letter. -/
def Run.start : Run := ⟨0, 0, none⟩

/-- Whether a unit is the first or the second of a pair. -/
def isFirstUnit (unit : Nat) : Bool :=
  0xd800 ≤ unit && unit < 0xdc00

/-- The characters that a unit completes, and the first unit of a pair that it leaves. -/
def completed (first? : Option Nat) (unit : Nat) : List Char × Option Nat :=
  match first? with
  | some first =>
    if 0xdc00 ≤ unit && unit < 0xe000 then (pairUnits [first, unit], none)
    else if isFirstUnit unit then ([codeChar first], some unit)
    else ([codeChar first, codeChar unit], none)
  | none => if isFirstUnit unit then ([], some unit) else ([codeChar unit], none)

/-- Takes in the six bits of a letter: the characters that are completed, and the run from there on. -/
def Run.take (run : Run) (value : Nat) : List Char × Run :=
  let bits := run.bits * 64 + value
  let count := run.count + 6
  if count < 16 then ([], ⟨bits, count, run.first?⟩)
  else
    let left := Nat.pow 2 (count - 16)
    let (chars, first?) := completed run.first? (bits / left)
    (chars, ⟨bits % left, count - 16, first?⟩)

/-- Whether bits are left over that are no filling. -/
def Run.isBroken (run : Run) : Bool :=
  6 ≤ run.count || run.bits != 0

/-- The characters of a byte that stands for itself, if it does. -/
def plainChar (byte : UInt8) : Char :=
  if byte < 0x80 then Char.ofNat byte.toNat else '\ufffd'

/-- The value of a byte that is a letter. -/
def byteSextet? (byte : UInt8) : Option Nat :=
  if byte < 0x80 then sextet? (Char.ofNat byte.toNat) else none

/-- The characters of bytes inside a run of letters, or outside. -/
def utf7From : Option Run → List UInt8 → List Char
  | none, [] => []
  | some run, [] => if run.isBroken || run.first?.isSome then ['\ufffd'] else []
  | none, 0x2b :: 0x2d :: rest => '+' :: utf7From none rest
  | none, 0x2b :: byte :: rest =>
    match byteSextet? byte with
    | some value =>
      let (chars, run) := Run.start.take value
      chars ++ utf7From (some run) rest
    | none => '\ufffd' :: utf7From none rest
  | none, byte :: rest =>
    if byte = 0x2b then utf7From (some Run.start) rest else plainChar byte :: utf7From none rest
  | some run, byte :: rest =>
    match byteSextet? byte with
    | some value =>
      let (chars, run) := run.take value
      chars ++ utf7From (some run) rest
    | none =>
      if run.isBroken then '\ufffd' :: utf7From none rest
      else
        let broken := if run.first?.isSome && byte < 0x80 then ['\ufffd'] else []
        broken ++ (if byte = 0x2d then [] else [plainChar byte]) ++ utf7From none rest

/-- The text of plain bytes. -/
def decodeUtf7 (bytes : List UInt8) : String :=
  String.ofList (utf7From none bytes)

end Workflow.Text
