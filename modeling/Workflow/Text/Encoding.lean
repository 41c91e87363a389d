/-!
# Texts as bytes

Decoding of bytes in the encodings of the Unicode standard, and the choice among them that JSON
documents allow, by the byte order mark or by where the nought bytes of the first characters stand.
Parts of broken pairs of units are replaced, since no character stands for them.
-/

namespace Workflow.Text

/-- The character with a code; half a pair of units has none and is replaced. -/
def codeChar (code : Nat) : Char :=
  if 0xd800 ≤ code && code < 0xe000 then '\ufffd' else Char.ofNat code

/-- What the first byte of a character in UTF-8 tells: how many bytes follow, the bits of the code, and
the range of the second byte. -/
def leadByte? (byte : Nat) (pairs : Bool) : Option (Nat × Nat × Nat × Nat) :=
  if 0xc2 ≤ byte && byte < 0xe0 then some (1, byte - 0xc0, 0x80, 0xbf)
  else if byte = 0xe0 then some (2, 0, 0xa0, 0xbf)
  else if byte = 0xed && !pairs then some (2, 0xd, 0x80, 0x9f)
  else if 0xe1 ≤ byte && byte < 0xf0 then some (2, byte - 0xe0, 0x80, 0xbf)
  else if byte = 0xf0 then some (3, 0, 0x90, 0xbf)
  else if 0xf1 ≤ byte && byte < 0xf4 then some (3, byte - 0xf0, 0x80, 0xbf)
  else if byte = 0xf4 then some (3, 4, 0x80, 0x8f)
  else none

/-- The bytes that go on with a character: at most `count`, the first within the given range. -/
def followers (count low high : Nat) : List UInt8 → List UInt8
  | [] => []
  | byte :: rest =>
    if count = 0 then []
    else if low ≤ byte.toNat && byte.toNat ≤ high then byte :: followers (count - 1) 0x80 0xbf rest
    else []

/-- The first character in UTF-8 and how many bytes it takes. Bytes that begin no character, or one that
is not finished, are `none` with the bytes they take. -/
def firstChar (pairs : Bool) (lead : UInt8) (rest : List UInt8) : Option Char × Nat :=
  if lead < 0x80 then (some (Char.ofNat lead.toNat), 1)
  else match leadByte? lead.toNat pairs with
    | none => (none, 1)
    | some (count, bits, low, high) =>
      let more := followers count low high rest
      let code := more.foldl (fun code byte => code * 64 + (byte.toNat - 0x80)) bits
      if more.length = count then (some (codeChar code), count + 1) else (none, more.length + 1)

/-- The characters of bytes, `none` for each run of bytes that is none. `first` tells the first character
and how many bytes it takes, `skip` how many bytes belong to the character before. -/
def charsFrom (first : UInt8 → List UInt8 → Option Char × Nat) :
    (skip : Nat) → List UInt8 → List (Option Char)
  | _, [] => []
  | skip + 1, _ :: rest => charsFrom first skip rest
  | 0, lead :: rest =>
    let (char?, length) := first lead rest
    char? :: charsFrom first (length - 1) rest

/-- The text of bytes in UTF-8, if they are one. Halves of pairs of units are let through if `pairs` says
so. -/
def decodeUtf8? (pairs : Bool) (bytes : List UInt8) : Option String :=
  ((charsFrom (firstChar pairs) 0 bytes).mapM id).map String.ofList

/-- The text of bytes in UTF-8, with what is no character replaced. -/
def decodeUtf8Lossy (bytes : List UInt8) : String :=
  String.ofList ((charsFrom (firstChar false) 0 bytes).map (·.getD '\ufffd'))

/-- Units of sixteen bits from bytes, the lower byte first or last; an odd byte is left over. -/
def units16? (lowFirst : Bool) : List UInt8 → Option (List Nat)
  | [] => some []
  | [_] => none
  | a :: b :: rest =>
    let (low, high) := if lowFirst then (a, b) else (b, a)
    (units16? lowFirst rest).map ((high.toNat * 256 + low.toNat) :: ·)

/-- Units of thirty-two bits from bytes. -/
def units32? (lowFirst : Bool) : List UInt8 → Option (List Nat)
  | [] => some []
  | a :: b :: c :: d :: rest =>
    let bytes := if lowFirst then [d, c, b, a] else [a, b, c, d]
    (units32? lowFirst rest).map (bytes.foldl (fun code byte => code * 256 + byte.toNat) 0 :: ·)
  | _ => none

/-- The characters of units of sixteen bits. -/
def pairUnits : List Nat → List Char
  | high :: low :: rest =>
    if 0xd800 ≤ high && high < 0xdc00 && 0xdc00 ≤ low && low < 0xe000 then
      Char.ofNat (0x10000 + (high - 0xd800) * 0x400 + (low - 0xdc00)) :: pairUnits rest
    else codeChar high :: pairUnits (low :: rest)
  | [unit] => [codeChar unit]
  | [] => []

/-- The text of bytes in UTF-16. -/
def decodeUtf16? (lowFirst : Bool) (bytes : List UInt8) : Option String :=
  (units16? lowFirst bytes).map fun units => String.ofList (pairUnits units)

/-- The text of bytes in UTF-32. -/
def decodeUtf32? (lowFirst : Bool) (bytes : List UInt8) : Option String := do
  let units ← units32? lowFirst bytes
  guard (units.all (· < 0x110000))
  return String.ofList (units.map codeChar)

/-- The text of bytes in UTF-16, with what is no character replaced. A byte that is left over is replaced
too, together with a half pair before it. -/
def decodeUtf16Lossy (lowFirst : Bool) (bytes : List UInt8) : String :=
  let units := (units16? lowFirst (bytes.take (bytes.length / 2 * 2))).getD []
  let endsWithHalf := units.getLast?.any fun unit => 0xd800 ≤ unit && unit < 0xdc00
  let extra := if bytes.length % 2 = 1 && !endsWithHalf then ['\ufffd'] else []
  String.ofList (pairUnits units ++ extra)

/-- The text of bytes in UTF-32, with what is no character replaced. -/
def decodeUtf32Lossy (lowFirst : Bool) (bytes : List UInt8) : String :=
  let units := (units32? lowFirst (bytes.take (bytes.length / 4 * 4))).getD []
  let extra := if bytes.length % 4 = 0 then [] else ['\ufffd']
  String.ofList (units.map (fun unit => if unit < 0x110000 then codeChar unit else '\ufffd') ++ extra)

/-- The text of the bytes of a JSON document, in the encoding that its first bytes tell. -/
def decodeJsonBytes? (bytes : List UInt8) : Option String :=
  match bytes with
  | 0x00 :: 0x00 :: 0xfe :: 0xff :: rest => decodeUtf32? false rest
  | 0xff :: 0xfe :: 0x00 :: 0x00 :: rest => decodeUtf32? true rest
  | 0xfe :: 0xff :: rest => decodeUtf16? false rest
  | 0xff :: 0xfe :: rest => decodeUtf16? true rest
  | 0xef :: 0xbb :: 0xbf :: rest => decodeUtf8? true rest
  | a :: b :: c :: d :: _ =>
    if a = 0 then (if b = 0 then decodeUtf32? false bytes else decodeUtf16? false bytes)
    else if b = 0 then (if c = 0 && d = 0 then decodeUtf32? true bytes else decodeUtf16? true bytes)
    else decodeUtf8? true bytes
  | [a, b] =>
    if a = 0 then decodeUtf16? false bytes
    else if b = 0 then decodeUtf16? true bytes
    else decodeUtf8? true bytes
  | _ => decodeUtf8? true bytes

end Workflow.Text
