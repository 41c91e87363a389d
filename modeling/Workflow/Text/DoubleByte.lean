import Workflow.Text.Encoding
import Workflow.Text.Kanji
import Workflow.Text.RareKanji
import Workflow.Text.Hanzi
import Workflow.Text.TraditionalHanzi
import Workflow.Text.Hangul

/-!
# Encodings of two bytes

Encodings of the writing of East Asia. Bytes below 128 are plain characters, others begin a character of
two bytes, in some encodings of three, four or eight.
-/

namespace Workflow.Text

/-- An encoding of the writing of East Asia; some come with an extension. -/
inductive DoubleByte where
  | shiftedKanji (extended : Bool)
  | unshiftedKanji
  | hanzi
  /-- The first extension or both. -/
  | extendedHanzi (later : Bool)
  | traditionalHanzi (extended : Bool)
  | hangul (extended : Bool)

/-- The characters between two codes that are not among the given ones, in order. -/
def spareChars (first last : Nat) (taken : List Char) : List Char :=
  let unmarked := Array.replicate (last + 1 - first) false
  let isTaken := taken.foldl
    (fun marks char =>
      if char.toNat < first then marks else marks.setIfInBounds (char.toNat - first) true)
    unmarked
  let places := (List.range isTaken.size).filter fun place => !isTaken.getD place true
  places.map fun place => Char.ofNat (first + place)

/-- The ideographs that extensions of the Chinese standard put in order of their codes. -/
def spareHanzi : List Char := spareChars 0x4e00 0x9fa5 hanzi.chars

/-- The syllables that the extension of the Korean standard puts in order of their codes. -/
def spareHangul : List Char := spareChars 0xac00 0xd7a3 hangul.chars

/-- The characters of one byte in half-width writing. -/
def halfKana? (byte : Nat) : Option Char :=
  if 0xa1 ≤ byte && byte ≤ 0xdf then some (Char.ofNat (0xff61 + (byte - 0xa1))) else none

/-- Where a second byte stands among those that may be one, which leave out one hundred and
twenty-seven. -/
def trailPlace? (byte last : Nat) : Option Nat :=
  if byte < 0x40 || byte = 0x7f || last < byte then none
  else some (if byte < 0x7f then byte - 0x40 else byte - 0x41)

/-- The character of two bytes in the shifted encoding of Japanese. A first byte stands for two rows. -/
def shiftedKanji? (extended : Bool) (lead trail : Nat) : Option Char := do
  guard ((0x81 ≤ lead && lead ≤ 0x9f) || (0xe0 ≤ lead && lead ≤ 0xfc))
  let place ← trailPlace? trail 0xfc
  let row := 2 * (if lead < 0xe0 then lead - 0x81 else lead - 0xc1) + place / 94 + 0x21
  let cell := place % 94 + 0x21
  if extended then
    if 0xf0 ≤ lead && lead ≤ 0xf9 then some (Char.ofNat (0xe000 + 188 * (lead - 0xf0) + place))
    else (vendorKanji.char? row cell).or (kanji.char? row cell)
  else kanji.char? row cell

/-- The character of two bytes in the first extension of the Chinese standard. -/
def extendedHanzi? (lead trail : Nat) : Option Char := do
  let place ← trailPlace? trail 0xfe
  let spare? :=
    if 0x81 ≤ lead && lead ≤ 0xa0 then spareHanzi[190 * (lead - 0x81) + place]?
    else if 0xaa ≤ lead && lead ≤ 0xfe && trail ≤ 0xa0 then
      spareHanzi[190 * 32 + 96 * (lead - 0xaa) + place]?
    else none
  ((addedHanzi.char? lead trail).or (hanzi.char? lead trail)).or spare?

/-- The character of two bytes in the second extension of the Chinese standard. Some areas are left to
the user, whose characters have codes of their own. -/
def laterHanzi? (lead trail : Nat) : Option Char :=
  let own? : Option Nat := do
    let place ← trailPlace? trail 0xfe
    if 0xa1 ≤ trail && 0xaa ≤ lead && lead ≤ 0xaf then some (94 * (lead - 0xaa) + (trail - 0xa1))
    else if 0xa1 ≤ trail && 0xf8 ≤ lead && lead ≤ 0xfe then
      some (564 + 94 * (lead - 0xf8) + (trail - 0xa1))
    else if trail ≤ 0xa0 && 0xa1 ≤ lead && lead ≤ 0xa7 then some (1222 + 96 * (lead - 0xa1) + place)
    else none
  ((extendedHanzi? lead trail).or (laterHanzi.char? lead trail)).or
    (own?.map fun place => Char.ofNat (0xe000 + place))

/-- Where runs of characters of four bytes begin in their order, with the codes that they begin at. These
characters are those that have no two bytes, in order of their codes. -/
def fourByteRuns : List (Nat × Nat) :=
  [(0, 128), (36, 165), (38, 169), (45, 178), (50, 184), (81, 216), (89, 226), (95, 235),
    (96, 238), (100, 244), (103, 248), (104, 251), (105, 253), (109, 258), (126, 276), (133, 284),
    (148, 300), (172, 325), (175, 329), (179, 334), (208, 364), (306, 463), (307, 465),
    (308, 467), (309, 469), (310, 471), (311, 473), (312, 475), (313, 477), (341, 506),
    (428, 594), (443, 610), (544, 712), (545, 716), (558, 730), (741, 930), (742, 938),
    (749, 962), (750, 970), (805, 1026), (819, 1104), (820, 1106), (7922, 8209), (7924, 8215),
    (7925, 8218), (7927, 8222), (7934, 8231), (7943, 8241), (7944, 8244), (7945, 8246),
    (7950, 8252), (8062, 8365), (8148, 8452), (8149, 8454), (8152, 8458), (8164, 8471),
    (8174, 8482), (8236, 8556), (8240, 8570), (8262, 8596), (8264, 8602), (8374, 8713),
    (8380, 8720), (8381, 8722), (8384, 8726), (8388, 8731), (8390, 8737), (8392, 8740),
    (8393, 8742), (8394, 8748), (8396, 8751), (8401, 8760), (8406, 8766), (8416, 8777),
    (8419, 8781), (8424, 8787), (8437, 8802), (8439, 8808), (8445, 8816), (8482, 8854),
    (8485, 8858), (8496, 8870), (8521, 8896), (8603, 8979), (8936, 9322), (8946, 9372),
    (9046, 9548), (9050, 9588), (9063, 9616), (9066, 9622), (9076, 9634), (9092, 9652),
    (9100, 9662), (9108, 9672), (9111, 9676), (9113, 9680), (9131, 9702), (9162, 9735),
    (9164, 9738), (9218, 9793), (9219, 9795), (11329, 11906), (11331, 11909), (11334, 11913),
    (11336, 11917), (11346, 11928), (11361, 11944), (11363, 11947), (11366, 11951),
    (11370, 11956), (11372, 11960), (11375, 11964), (11389, 11979), (11682, 12284),
    (11686, 12292), (11687, 12312), (11692, 12319), (11694, 12330), (11714, 12351),
    (11716, 12436), (11723, 12447), (11725, 12535), (11730, 12543), (11736, 12586),
    (11982, 12842), (11989, 12850), (12102, 12964), (12336, 13200), (12348, 13215),
    (12350, 13218), (12384, 13253), (12393, 13263), (12395, 13267), (12397, 13270),
    (12510, 13384), (12553, 13428), (12851, 13727), (12962, 13839), (12973, 13851),
    (13738, 14617), (13823, 14703), (13919, 14801), (13933, 14816), (14080, 14964),
    (14298, 15183), (14585, 15471), (14698, 15585), (15583, 16471), (15847, 16736),
    (16318, 17208), (16434, 17325), (16438, 17330), (16481, 17374), (16729, 17623),
    (17102, 17997), (17122, 18018), (17315, 18212), (17320, 18218), (17402, 18301),
    (17418, 18318), (17859, 18760), (17909, 18811), (17911, 18814), (17915, 18820),
    (17916, 18823), (17936, 18844), (17939, 18848), (17961, 18872), (18664, 19576),
    (18703, 19620), (18814, 19738), (18962, 19887), (19043, 40870), (33469, 59244),
    (33470, 59336), (33471, 59367), (33484, 59413), (33485, 59417), (33490, 59423),
    (33497, 59431), (33501, 59437), (33505, 59443), (33513, 59452), (33520, 59460),
    (33536, 59478), (33550, 59493), (37845, 63789), (37921, 63866), (37948, 63894),
    (38029, 63976), (38038, 63986), (38064, 64016), (38065, 64018), (38066, 64021),
    (38069, 64025), (38075, 64034), (38076, 64037), (38078, 64042), (39108, 65074),
    (39109, 65093), (39113, 65107), (39114, 65112), (39115, 65127), (39116, 65132),
    (39265, 65375), (39394, 65510)]

/-- The character of four bytes in the second extension of the Chinese standard, of which the second and
the last are digits. -/
def fourByteChar? (a b c d : Nat) : Option Char := do
  guard (0x81 ≤ a ∧ a ≤ 0xfe ∧ 0x81 ≤ c ∧ c ≤ 0xfe ∧ 0x30 ≤ d ∧ d ≤ 0x39)
  let place := ((a - 0x81) * 10 + (b - 0x30)) * 1260 + (c - 0x81) * 10 + (d - 0x30)
  if place < 39420 then
    let (start, code) ← (fourByteRuns.takeWhile (·.1 ≤ place)).getLast?
    some (Char.ofNat (code + (place - start)))
  else
    guard (189000 ≤ place ∧ place < 189000 + 0x100000)
    some (Char.ofNat (0x10000 + (place - 189000)))

/-- The first consonants, the vowels and the last consonants of a syllable. A last one may be missing. -/
def syllable? (first vowel last : Nat) : Option Char := do
  let firsts := [0, 1, 30, 2, 30, 30, 3, 4, 5, 30, 30, 30, 30, 30, 30, 30, 6, 7, 8, 30, 9, 10, 11, 12, 13,
    14, 15, 16, 17, 18]
  let lasts := [1, 2, 3, 4, 5, 6, 7, 30, 8, 9, 10, 11, 12, 13, 14, 15, 16, 17, 30, 18, 19, 20, 21, 22, 30,
    23, 24, 25, 26, 27]
  guard (0xa1 ≤ first ∧ 0xbf ≤ vowel ∧ vowel ≤ 0xd3)
  let first ← firsts[first - 0xa1]?
  let last ← if last = 0xd4 then some 0 else if 0xa1 ≤ last then lasts[last - 0xa1]? else none
  guard (first ≠ 30 ∧ last ≠ 30)
  some (Char.ofNat (0xac00 + first * 588 + (vowel - 0xbf) * 28 + last))

/-- The character of two bytes in the extension of the Korean standard. -/
def extendedHangul? (lead trail : Nat) : Option Char :=
  let place? : Option Nat :=
    if 0x41 ≤ trail && trail ≤ 0x5a then some (trail - 0x41)
    else if 0x61 ≤ trail && trail ≤ 0x7a then some (trail - 0x61 + 26)
    else if 0x81 ≤ trail && trail ≤ 0xfe then some (trail - 0x81 + 52)
    else none
  let spare? := place?.bind fun place =>
    if 0x81 ≤ lead && lead ≤ 0xa0 then spareHangul[178 * (lead - 0x81) + place]?
    else if 0xa1 ≤ lead && lead ≤ 0xc6 && trail ≤ 0xa0 then
      spareHangul[178 * 32 + 84 * (lead - 0xa1) + place]?
    else none
  (hangul.char? lead trail).or spare?

namespace DoubleByte

/-- The character that a byte stands for alone. -/
def single? : DoubleByte → Nat → Option Char
  | .shiftedKanji true, 0x80 => some '\x80'
  | .shiftedKanji true, 0xa0 => some '\uf8f0'
  | .shiftedKanji true, 0xfd => some '\uf8f1'
  | .shiftedKanji true, 0xfe => some '\uf8f2'
  | .shiftedKanji true, 0xff => some '\uf8f3'
  | .shiftedKanji _, byte => halfKana? byte
  | _, _ => none

/-- Whether a byte that is no character may begin one. -/
def isLead : DoubleByte → Nat → Bool
  | .shiftedKanji _, byte => (0x81 ≤ byte && byte ≤ 0x9f) || (0xe0 ≤ byte && byte ≤ 0xfc)
  | _, _ => true

/-- The character of two bytes. -/
def double? : DoubleByte → Nat → Nat → Option Char
  | .shiftedKanji extended, lead, trail => shiftedKanji? extended lead trail
  | .unshiftedKanji, 0x8e, trail => halfKana? trail
  | .unshiftedKanji, lead, trail => kanji.char? (lead - 0x80) (trail - 0x80)
  | .hanzi, lead, trail => Text.hanzi.char? lead trail
  | .extendedHanzi false, lead, trail => extendedHanzi? lead trail
  | .extendedHanzi true, lead, trail => laterHanzi? lead trail
  | .traditionalHanzi false, lead, trail => Text.traditionalHanzi.char? lead trail
  | .traditionalHanzi true, lead, trail =>
    (vendorHanzi.char? lead trail).or (Text.traditionalHanzi.char? lead trail)
  | .hangul false, lead, trail => Text.hangul.char? lead trail
  | .hangul true, lead, trail => extendedHangul? lead trail

/-- How many bytes a character has that begins with two bytes. -/
def length : DoubleByte → Nat → Nat → Nat
  | .unshiftedKanji, 0x8f, _ => 3
  | .extendedHanzi true, _, trail => if 0x30 ≤ trail && trail ≤ 0x39 then 4 else 2
  | .hangul false, 0xa4, 0xd4 => 8
  | _, _, _ => 2

/-- The character of several bytes. -/
def char? (encoding : DoubleByte) : List Nat → Option Char
  | [lead, trail] => encoding.double? lead trail
  | [_, b, c] => rareKanji.char? (b - 0x80) (c - 0x80)
  | [a, b, c, d] => fourByteChar? a b c d
  | [_, _, 0xa4, first, 0xa4, vowel, 0xa4, last] => syllable? first vowel last
  | _ => none

/-- The first character and how many bytes it takes. A byte that begins no character is `none` alone; bytes
that end too early to tell are `none` together. -/
def firstChar (encoding : DoubleByte) (lead : UInt8) (rest : List UInt8) : Option Char × Nat :=
  if lead < 0x80 then (some (Char.ofNat lead.toNat), 1)
  else match encoding.single? lead.toNat with
    | some char => (some char, 1)
    | none =>
      if encoding.isLead lead.toNat then
        let length := encoding.length lead.toNat ((rest.head?.map UInt8.toNat).getD 0)
        if rest.length + 1 < length then (none, rest.length + 1)
        else match encoding.char? ((lead :: rest.take (length - 1)).map UInt8.toNat) with
          | some char => (some char, length)
          | none => (none, 1)
      else (none, 1)

/-- The text of bytes, with what is no character replaced. -/
def decodeLossy (encoding : DoubleByte) (bytes : List UInt8) : String :=
  String.ofList ((charsFrom encoding.firstChar 0 bytes).map (·.getD '\ufffd'))

end DoubleByte

end Workflow.Text
