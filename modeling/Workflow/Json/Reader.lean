import Workflow.Number.Numeral
import Workflow.Value.Basic

/-!
# Reading JSON

A reader of JSON documents that says where and why it refuses a text. Besides the standard forms it
knows `NaN`, `Infinity` and `-Infinity`. Of several entries with one key the last value stands, in the
place of the first.
-/

namespace Workflow.Json

open Number

/-- Why a text is refused. -/
inductive Reason where
  | expectingValue
  | expectingName
  | expectingColon
  | expectingComma
  | unterminatedText
  | controlCharacter
  | badEscape
  | badUnitEscape
  | extraData
  | byteOrderMark
  deriving DecidableEq

/-- The words for a reason. -/
def Reason.message : Reason → String
  | .expectingValue => "Expecting value"
  | .expectingName => "Expecting property name enclosed in double quotes"
  | .expectingColon => "Expecting ':' delimiter"
  | .expectingComma => "Expecting ',' delimiter"
  | .unterminatedText => "Unterminated string starting at"
  | .controlCharacter => "Invalid control character at"
  | .badEscape => "Invalid \\escape"
  | .badUnitEscape => "Invalid \\uXXXX escape"
  | .extraData => "Extra data"
  | .byteOrderMark => "Unexpected UTF-8 BOM (decode using utf-8-sig)"

/-- A place in a text, counted from 0 in characters, and from 1 in lines and columns. -/
structure Place where
  index : Nat
  line : Nat
  column : Nat
  deriving DecidableEq

/-- The place of a character in a text. -/
def Place.ofIndex (cs : List Char) (index : Nat) : Place :=
  let before := cs.take index
  ⟨index, before.count '\n' + 1, (before.reverse.takeWhile (· ≠ '\n')).length + 1⟩

/-- Why a document is not read. -/
inductive ReadError where
  /-- The text is no JSON document; the place is where reading stopped. -/
  | malformed (reason : Reason) (place : Place)
  /-- A whole number has more digits than are read. -/
  | integerTooLong (digits : Nat)
  deriving DecidableEq

/-- A failure while reading, by how many characters were left. -/
inductive Failure where
  | malformed (reason : Reason) (left : Nat)
  | integerTooLong (digits : Nat)

/-- Whether a character is blank in JSON. -/
def isSpace (c : Char) : Bool :=
  c = ' ' || c = '\t' || c = '\n' || c = '\r'

/-- Drops blanks. -/
def skipSpace (cs : List Char) : List Char :=
  cs.dropWhile isSpace

/-- The value of a digit in base sixteen. -/
def hexValue? (c : Char) : Option Nat :=
  if '0' ≤ c ∧ c ≤ '9' then some (c.toNat - 48)
  else if 'a' ≤ c ∧ c ≤ 'f' then some (c.toNat - 87)
  else if 'A' ≤ c ∧ c ≤ 'F' then some (c.toNat - 55)
  else none

/-- A unit of sixteen bits written with four digits, and the text after it. -/
def readUnit? : List Char → Option (Nat × List Char)
  | a :: b :: c :: d :: rest => do
    let a ← hexValue? a
    let b ← hexValue? b
    let c ← hexValue? c
    let d ← hexValue? d
    return (((a * 16 + b) * 16 + c) * 16 + d, rest)
  | _ => none

/-- The character that a letter after a backslash stands for. -/
def simpleEscape? : Char → Option Char
  | '"' => some '"'
  | '\\' => some '\\'
  | '/' => some '/'
  | 'b' => some '\x08'
  | 'f' => some '\x0c'
  | 'n' => some '\n'
  | 'r' => some '\r'
  | 't' => some '\t'
  | _ => none

/-- Whether a unit is the first of a pair. -/
def isHighUnit (code : Nat) : Bool :=
  0xd800 ≤ code && code < 0xdc00

/-- Whether a unit is the second of a pair. -/
def isLowUnit (code : Nat) : Bool :=
  0xdc00 ≤ code && code < 0xe000

/-- The character of a unit; a unit of a broken pair has none and is replaced. -/
def unitChar (code : Nat) : Char :=
  if isHighUnit code || isLowUnit code then '\ufffd' else Char.ofNat code

/-- The character of a pair of units. -/
def pairChar (high low : Nat) : Char :=
  Char.ofNat (0x10000 + (high - 0xd800) * 0x400 + (low - 0xdc00))

/-- A pair of units is completed by a second escaped unit, if that is the second of a pair. The answer
is the character and the text after it. A unit at the very end of a document is not looked at. -/
def readPair? (high : Nat) : List Char → Except Failure (Option (Char × List Char))
  | '\\' :: 'u' :: digits =>
    if isHighUnit high && !(digits.drop 4).isEmpty then
      match readUnit? digits with
      | none => .error (.malformed .badUnitEscape (digits.length + 1))
      | some (low, rest) =>
        .ok (if isLowUnit low then some (pairChar high low, rest) else none)
    else .ok none
  | _ => .ok none

/-- Reads what follows a backslash: the character it stands for, and the text after it. -/
def readEscape (opening : List Char) : List Char → Except Failure (Char × List Char)
  | [] => .error (.malformed .unterminatedText opening.length)
  | 'u' :: digits =>
    match readUnit? digits with
    | some (high, next :: rest) => do
      match ← readPair? high (next :: rest) with
      | some found => .ok found
      | none => .ok (unitChar high, next :: rest)
    | _ => .error (.malformed .badUnitEscape (digits.length + 1))
  | letter :: rest =>
    match simpleEscape? letter with
    | some char => .ok (char, rest)
    | none => .error (.malformed .badEscape (rest.length + 2))

/-- Reads the inside of a text up to its closing quote. `opening` is the text from the opening quote
on. The fuel bounds the characters of the text. -/
def readText (opening : List Char) : (fuel : Nat) → List Char → Except Failure (List Char × List Char)
  | 0, _ => .error (.malformed .unterminatedText opening.length)
  | _ + 1, [] => .error (.malformed .unterminatedText opening.length)
  | fuel + 1, c :: rest =>
    if c = '"' then .ok ([], rest)
    else if c = '\\' then do
      let (char, rest) ← readEscape opening rest
      let (chars, rest) ← readText opening fuel rest
      .ok (char :: chars, rest)
    else if c.toNat < 32 then .error (.malformed .controlCharacter (rest.length + 1))
    else do
      let (chars, rest) ← readText opening fuel rest
      .ok (c :: chars, rest)

/-- The plain digits at the front of a text, and the rest. -/
def plainDigits (cs : List Char) : List Char × List Char :=
  (cs.takeWhile Char.isDigit, cs.dropWhile Char.isDigit)

/-- The values of plain digits. -/
def digitList (cs : List Char) : List Nat :=
  cs.map fun c => c.toNat - 48

/-- A fraction at the front of a text: a point and at least one digit. -/
def readFraction : List Char → Option (List Char) × List Char
  | '.' :: rest =>
    match plainDigits rest with
    | ([], _) => (none, '.' :: rest)
    | (digits, rest') => (some digits, rest')
  | rest => (none, rest)

/-- An exponent at the front of a text: its mark, a sign and at least one digit. -/
def readExponent : List Char → Option Int × List Char
  | c :: rest =>
    if c = 'e' || c = 'E' then
      let (negative, body) := takeSign rest
      match plainDigits body with
      | ([], _) => (none, c :: rest)
      | (digits, rest') => (some (signed negative (digitsValue (digitList digits))), rest')
    else (none, c :: rest)
  | [] => (none, [])

/-- Reads a number: a whole number unless it has a fraction or an exponent. -/
def readNumber (cs : List Char) : Except Failure (Scalar × List Char) :=
  let (negative, body) := match cs with
    | '-' :: rest => (true, rest)
    | rest => (false, rest)
  let (whole, rest) := match body with
    | '0' :: rest => (['0'], rest)
    | rest => plainDigits rest
  if whole.isEmpty then .error (.malformed .expectingValue cs.length)
  else
    let (fraction?, rest) := readFraction rest
    let (exponent?, rest) := readExponent rest
    match fraction?, exponent? with
    | none, none =>
      if digitLimit < whole.length then .error (.integerTooLong whole.length)
      else .ok (.int (signed negative (digitsValue (digitList whole))), rest)
    | _, _ =>
      let fraction := fraction?.getD []
      .ok (.float (ofDecimal negative (digitList (whole ++ fraction))
        (exponent?.getD 0 - fraction.length)), rest)

/-- The words that stand for a scalar. -/
def wordScalars : List (List Char × Scalar) :=
  [("null".toList, .null), ("true".toList, .bool true), ("false".toList, .bool false),
    ("NaN".toList, .float .ofJson), ("Infinity".toList, .float (.infinite false)),
    ("-Infinity".toList, .float (.infinite true))]

/-- Reads a word or a number. -/
def readScalar (cs : List Char) : Except Failure (Scalar × List Char) :=
  match wordScalars.find? fun (word, _) => word.isPrefixOf cs with
  | some (word, scalar) => .ok (scalar, cs.drop word.length)
  | none => readNumber cs

mutual

/-- Reads a value from the front of a text. The fuel is spent twice for each bracket. -/
def readValue : (fuel : Nat) → List Char → Except Failure (Value × List Char)
  | 0, cs => .error (.malformed .expectingValue cs.length)
  | fuel + 1, '"' :: rest => do
    let (chars, rest) ← readText ('"' :: rest) fuel rest
    .ok (.text (String.ofList chars), rest)
  | fuel + 1, '[' :: rest =>
    match skipSpace rest with
    | ']' :: rest => .ok (.list [], rest)
    | rest => do
      let (items, rest) ← readItems fuel rest
      .ok (.list items, rest)
  | fuel + 1, '\x7b' :: rest =>
    match skipSpace rest with
    | '\x7d' :: rest => .ok (.dict [], rest)
    | rest => do
      let (entries, rest) ← readEntries fuel rest
      .ok (.dict (Dict.ofEntries entries), rest)
  | _ + 1, cs => do
    let (scalar, rest) ← readScalar cs
    .ok (.scalar scalar, rest)

/-- Reads the items of a list from the first one to the closing bracket. -/
def readItems : (fuel : Nat) → List Char → Except Failure (List Value × List Char)
  | 0, cs => .error (.malformed .expectingValue cs.length)
  | fuel + 1, cs => do
    let (item, rest) ← readValue fuel cs
    match skipSpace rest with
    | ']' :: rest => .ok ([item], rest)
    | ',' :: rest => do
      let (items, rest) ← readItems fuel (skipSpace rest)
      .ok (item :: items, rest)
    | rest => .error (.malformed .expectingComma rest.length)

/-- Reads the entries of a mapping from the first one to the closing brace. -/
def readEntries : (fuel : Nat) → List Char → Except Failure (List (Scalar × Value) × List Char)
  | 0, cs => .error (.malformed .expectingName cs.length)
  | fuel + 1, '"' :: rest => do
    let (name, rest) ← readText ('"' :: rest) fuel rest
    match skipSpace rest with
    | ':' :: rest => do
      let (value, rest) ← readValue fuel (skipSpace rest)
      let entry := (Scalar.text (String.ofList name), value)
      match skipSpace rest with
      | '\x7d' :: rest => .ok ([entry], rest)
      | ',' :: rest => do
        let (entries, rest) ← readEntries fuel (skipSpace rest)
        .ok (entry :: entries, rest)
      | rest => .error (.malformed .expectingComma rest.length)
    | rest => .error (.malformed .expectingColon rest.length)
  | _ + 1, cs => .error (.malformed .expectingName cs.length)

end

/-- The fault of a document of which so many characters are left unread. -/
def refuse (cs : List Char) (reason : Reason) (left : Nat) : ReadError :=
  .malformed reason (Place.ofIndex cs (cs.length - left))

/-- Reads a whole document whose encoding is settled: one value with blanks around it. -/
def readDecoded (text : String) : Except ReadError Value :=
  let cs := text.toList
  match readValue (2 * cs.length + 2) (skipSpace cs) with
  | .error (.malformed reason left) => .error (refuse cs reason left)
  | .error (.integerTooLong digits) => .error (.integerTooLong digits)
  | .ok (value, rest) =>
    match skipSpace rest with
    | [] => .ok value
    | rest => .error (refuse cs .extraData rest.length)

/-- Reads a whole document, which must not begin with a byte order mark. -/
def read (text : String) : Except ReadError Value :=
  match text.toList with
  | '\ufeff' :: rest => .error (refuse ('\ufeff' :: rest) .byteOrderMark (rest.length + 1))
  | _ => readDecoded text

end Workflow.Json
