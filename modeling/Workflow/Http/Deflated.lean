/-!
# Deflated bytes

Bytes are deflated into blocks of bits. A block holds bytes as they are, or symbols in a code whose words
are shorter for symbols that are more frequent. A symbol is a byte, the end of the block, or a length: with
the distance behind it, it stands for bytes that were there before. The code of a block is fixed, or given
by the lengths of its words, which stand in front of it in a code of their own.

Bits that end too early stand for the bytes that are complete by then.
-/

namespace Workflow.Http.Deflated

/-- Why bits cannot be read on. -/
inductive Stop where
  /-- There are no more bits. -/
  | early
  /-- The bits are those of no block. -/
  | broken (message : String)
  deriving DecidableEq

/-- The bits of bytes, the lowest of each byte first. -/
def bitsOf (bytes : List UInt8) : List Bool :=
  bytes.flatMap fun byte => (List.range 8).map byte.toNat.testBit

/-- Reads a number of so many bits, the lowest first. -/
def takeNumber : (count : Nat) → List Bool → Except Stop (Nat × List Bool)
  | 0, bits => .ok (0, bits)
  | _ + 1, [] => .error .early
  | count + 1, bit :: rest => do
    let (high, rest) ← takeNumber count rest
    .ok (bit.toNat + 2 * high, rest)

/-- A word of a code, with the symbol that it stands for. -/
structure Word where
  length : Nat
  bits : Nat
  symbol : Nat
  deriving DecidableEq

/-- The longest word of a code. -/
def longestWord : Nat := 15

/-- Gives words to lengths in rising order. The words take their shares of all words of the greatest length,
one after the other; `start` is where the next share begins. -/
def wordsFrom (start : Nat) : List (Nat × Nat) → List Word
  | [] => []
  | (length, symbol) :: rest =>
    let share := Nat.pow 2 (longestWord - length)
    ⟨length, start / share, symbol⟩ :: wordsFrom (start + share) rest

/-- The words of a code whose symbols have words of the given lengths; those of length nought have none. -/
def codeOf (lengths : List Nat) : List Word :=
  let used := lengths.zipIdx.filter (·.1 ≠ 0)
  wordsFrom 0 (used.mergeSort fun left right => left.1 ≤ right.1)

/-- How much of all words of the greatest length is taken up by words of the given lengths. -/
def taken (lengths : List Nat) : Nat :=
  lengths.foldl
    (fun total length => if length = 0 then total else total + Nat.pow 2 (longestWord - length)) 0

/-- Whether words of the given lengths make up a code. It takes up all words, but a code without words is
let through, and one with a single short word too if `single` says so. -/
def isCode (single : Bool) (lengths : List Nat) : Bool :=
  let all := Nat.pow 2 longestWord
  lengths.all (· = 0) || taken lengths = all ||
    (single && taken lengths < all && lengths.all (· ≤ 1))

/-- Reads a word bit by bit: its symbol, or nothing if no word begins like this. -/
def takeWord (code : List Word) (longest length bits : Nat) :
    List Bool → Except Stop (Option Nat × List Bool)
  | [] => .error .early
  | bit :: rest =>
    let bits := 2 * bits + bit.toNat
    match code.find? fun word => word.length = length + 1 && word.bits = bits with
    | some word => .ok (some word.symbol, rest)
    | none =>
      if longest ≤ length + 1 then .ok (none, rest) else takeWord code longest (length + 1) bits rest

/-- Reads a symbol. -/
def takeSymbol (code : List Word) (bits : List Bool) : Except Stop (Option Nat × List Bool) :=
  takeWord code (code.foldl (fun longest word => max longest word.length) 1) 0 0 bits

/-- The fixed code of symbols. -/
def fixedSymbols : List Word :=
  codeOf (List.replicate 144 8 ++ List.replicate 112 9 ++ List.replicate 24 7 ++ List.replicate 8 8)

/-- The fixed code of distances. -/
def fixedDistances : List Word :=
  codeOf (List.replicate 32 5)

/-- The order in which the lengths of the code of lengths are given. -/
def lengthOrder : List Nat :=
  [16, 17, 18, 0, 8, 7, 9, 6, 10, 5, 11, 4, 12, 3, 13, 2, 14, 1, 15]

/-- Reads numbers of three bits. -/
def takeTriples : (count : Nat) → List Bool → Except Stop (List Nat × List Bool)
  | 0, bits => .ok ([], bits)
  | count + 1, bits => do
    let (value, bits) ← takeNumber 3 bits
    let (values, bits) ← takeTriples count bits
    .ok (value :: values, bits)

/-- Reads lengths of words until there are so many. A length may be repeated, and so may nought. -/
def takeLengths (code : List Word) (size : Nat) : (fuel : Nat) → List Nat → List Bool →
    Except Stop (List Nat × List Bool)
  | 0, lengths, bits => .ok (lengths, bits)
  | fuel + 1, lengths, bits =>
    if size ≤ lengths.length then .ok (lengths, bits)
    else do
      let (symbol?, bits) ← takeSymbol code bits
      let symbol := symbol?.getD 0
      if symbol < 16 then takeLengths code size fuel (lengths ++ [symbol]) bits
      else
        let (extra, least) := if symbol = 16 then (2, 3) else if symbol = 17 then (3, 3) else (7, 11)
        let (more, bits) ← takeNumber extra bits
        match if symbol = 16 then lengths.getLast? else some 0 with
        | none => .error (.broken "invalid bit length repeat")
        | some length =>
          let lengths := lengths ++ List.replicate (least + more) length
          if size < lengths.length then .error (.broken "invalid bit length repeat")
          else takeLengths code size fuel lengths bits

/-- Reads the codes of symbols and of distances of a block. -/
def takeCodes (bits : List Bool) : Except Stop ((List Word × List Word) × List Bool) := do
  let (symbols, bits) ← takeNumber 5 bits
  let (distances, bits) ← takeNumber 5 bits
  let (orders, bits) ← takeNumber 4 bits
  let symbols := symbols + 257
  let distances := distances + 1
  if 286 < symbols || 30 < distances then
    .error (.broken "too many length or distance symbols")
  else do
    let (given, bits) ← takeTriples (orders + 4) bits
    let placed := (lengthOrder.zip given).mergeSort fun left right => left.1 ≤ right.1
    let lengths := (List.range 19).map fun symbol => (placed.lookup symbol).getD 0
    if !isCode false lengths then .error (.broken "invalid code lengths set")
    else do
      let size := symbols + distances
      let (all, bits) ← takeLengths (codeOf lengths) size size [] bits
      let ofSymbols := all.take symbols
      let ofDistances := all.drop symbols
      if all[256]? = some 0 then .error (.broken "invalid code -- missing end-of-block")
      else if !isCode true ofSymbols then .error (.broken "invalid literal/lengths set")
      else if !isCode true ofDistances then .error (.broken "invalid distances set")
      else .ok ((codeOf ofSymbols, codeOf ofDistances), bits)

/-- The least length of each symbol of a length, and the bits that are added. -/
def lengthSteps : List (Nat × Nat) :=
  [(3, 0), (4, 0), (5, 0), (6, 0), (7, 0), (8, 0), (9, 0), (10, 0), (11, 1), (13, 1), (15, 1), (17, 1),
    (19, 2), (23, 2), (27, 2), (31, 2), (35, 3), (43, 3), (51, 3), (59, 3), (67, 4), (83, 4), (99, 4),
    (115, 4), (131, 5), (163, 5), (195, 5), (227, 5), (258, 0)]

/-- The least distance of each symbol of a distance, and the bits that are added. -/
def distanceSteps : List (Nat × Nat) :=
  [(1, 0), (2, 0), (3, 0), (4, 0), (5, 1), (7, 1), (9, 2), (13, 2), (17, 3), (25, 3), (33, 4), (49, 4),
    (65, 5), (97, 5), (129, 6), (193, 6), (257, 7), (385, 7), (513, 8), (769, 8), (1025, 9), (1537, 9),
    (2049, 10), (3073, 10), (4097, 11), (6145, 11), (8193, 12), (12289, 12), (16385, 13), (24577, 13)]

/-- Puts bytes in front of the bytes so far, which are in reverse: as many as given, from so far back. -/
def copied (distance : Nat) : (length : Nat) → List UInt8 → List UInt8
  | 0, done => done
  | length + 1, done => copied distance length (done.getD (distance - 1) 0 :: done)

/-- Reads the length and the distance that a symbol begins. -/
def takeCopy (symbol : Nat) (distances : List Word) (size : Nat) (bits : List Bool) :
    Except Stop ((Nat × Nat) × List Bool) := do
  match lengthSteps[symbol - 257]? with
  | none => .error (.broken "invalid literal/length code")
  | some (least, extra) => do
    let (more, bits) ← takeNumber extra bits
    let (step?, bits) ← takeSymbol distances bits
    match step?.bind (distanceSteps[·]?) with
    | none => .error (.broken "invalid distance code")
    | some (nearest, extra) => do
      let (further, bits) ← takeNumber extra bits
      if size < nearest + further then .error (.broken "invalid distance too far back")
      else .ok ((least + more, nearest + further), bits)

/-- What is read so far: the bytes in reverse, and the bits that are left, or why there are none. -/
abbrev Reading := List UInt8 × Except Stop (List Bool)

/-- Reads the symbols of a block. The fuel is spent once for each symbol. -/
def readSymbols (symbols distances : List Word) : (fuel : Nat) → List UInt8 → List Bool → Reading
  | 0, done, bits => (done, .ok bits)
  | fuel + 1, done, bits =>
    match takeSymbol symbols bits with
    | .error stop => (done, .error stop)
    | .ok (none, _) => (done, .error (.broken "invalid literal/length code"))
    | .ok (some symbol, bits) =>
      if symbol < 256 then readSymbols symbols distances fuel (UInt8.ofNat symbol :: done) bits
      else if symbol = 256 then (done, .ok bits)
      else match takeCopy symbol distances done.length bits with
        | .error stop => (done, .error stop)
        | .ok ((length, distance), bits) =>
          readSymbols symbols distances fuel (copied distance length done) bits

/-- Reads bytes as they are. -/
def readBytes : (count : Nat) → List UInt8 → List Bool → Reading
  | 0, done, bits => (done, .ok bits)
  | count + 1, done, bits =>
    match takeNumber 8 bits with
    | .error stop => (done, .error stop)
    | .ok (byte, bits) => readBytes count (UInt8.ofNat byte :: done) bits

/-- Reads a block that holds bytes as they are, from the next whole byte on. -/
def readStored (done : List UInt8) (bits : List Bool) : Reading :=
  let lengths := do
    let (length, bits) ← takeNumber 16 (bits.drop (bits.length % 8))
    let (check, bits) ← takeNumber 16 bits
    if length + check = 0xffff then .ok (length, bits)
    else .error (Stop.broken "invalid stored block lengths")
  match lengths with
  | .error stop => (done, .error stop)
  | .ok (length, bits) => readBytes length done bits

/-- Reads the content of a block of a kind. -/
def readBlock (kind : Nat) (done : List UInt8) (bits : List Bool) : Reading :=
  match kind with
  | 0 => readStored done bits
  | 1 => readSymbols fixedSymbols fixedDistances (bits.length + 1) done bits
  | 2 =>
    match takeCodes bits with
    | .error stop => (done, .error stop)
    | .ok ((symbols, distances), bits) => readSymbols symbols distances (bits.length + 1) done bits
  | _ => (done, .error (.broken "invalid block type"))

/-- Reads blocks up to the one that is told to be the last. The fuel is spent once for each block. -/
def readBlocks : (fuel : Nat) → List UInt8 → List Bool → Reading
  | 0, done, bits => (done, .ok bits)
  | fuel + 1, done, bits =>
    match takeNumber 1 bits with
    | .error stop => (done, .error stop)
    | .ok (last, bits) =>
      match takeNumber 2 bits with
      | .error stop => (done, .error stop)
      | .ok (kind, bits) =>
        match readBlock kind done bits with
        | (done, .ok bits) => if last = 1 then (done, .ok bits) else readBlocks fuel done bits
        | stopped => stopped

/-- The check sum of bytes. -/
def checkSum (bytes : List UInt8) : Nat :=
  let (low, high) := bytes.foldl
    (fun (low, high) byte =>
      let low := (low + byte.toNat) % 65521
      (low, (high + low) % 65521))
    (1, 0)
  high * 65536 + low

/-- The bytes that deflated bytes stand for, and the bytes behind them if they are complete. -/
def inflateRaw (bytes : List UInt8) : Except String (List UInt8 × Option (List UInt8)) :=
  let bits := bitsOf bytes
  match readBlocks (bits.length + 1) [] bits with
  | (done, .ok rest) => .ok (done.reverse, some (bytes.drop (bytes.length - rest.length / 8)))
  | (done, .error .early) => .ok (done.reverse, none)
  | (_, .error (.broken message)) => .error message

/-- The bytes that deflated bytes with a header and a check sum stand for, if they are well formed. -/
def inflateFramed? : List UInt8 → Option (List UInt8)
  | method :: flags :: rest =>
    let isHeader := (method.toNat * 256 + flags.toNat) % 31 = 0 && method.toNat % 16 = 8 &&
      method.toNat / 16 ≤ 7 && !flags.toNat.testBit 5
    if !isHeader then none
    else match inflateRaw rest with
      | .error _ => none
      | .ok (content, some (a :: b :: c :: d :: _)) =>
        let sum := [a, b, c, d].foldl (fun sum byte => sum * 256 + byte.toNat) 0
        if sum = checkSum content then some content else none
      | .ok (content, _) => some content
  | _ => some []

/-- The bytes that deflated bytes stand for, with a header or without. -/
def inflate (bytes : List UInt8) : Except String (List UInt8) :=
  match inflateFramed? bytes with
  | some content => .ok content
  | none => (inflateRaw bytes).map (·.1)

end Workflow.Http.Deflated
