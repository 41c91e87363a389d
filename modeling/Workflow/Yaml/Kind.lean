import Workflow.Json.Reader
import Workflow.Time.Timestamp

/-!
# Kinds of YAML nodes

A tag tells the kind of a node. A plain scalar without a tag tells its kind by its form: words for
nothing and for truth values, whole numbers in several bases, floating-point numbers, and timestamps.
-/

namespace Workflow.Yaml

/-- The kind of a node. -/
inductive Kind where
  | null
  | bool
  | int
  | float
  | timestamp
  | text
  | bytes
  | sequence
  | mapping
  | set
  /-- A list of pairs of keys and values, written as a sequence of mappings with one entry each. -/
  | pairs
  /-- The key under which entries of other mappings are put in. -/
  | merge
  /-- The key of a default value. -/
  | defaultKey
  /-- A kind of which no values are known. -/
  | unknown
  deriving DecidableEq

namespace Kind

/-- The beginning of the tags that all documents share. -/
def sharedTags : String := "tag:yaml.org,2002:"

/-- The kinds of the shared tags. -/
def named : List (String × Kind) :=
  [("null", .null), ("bool", .bool), ("int", .int), ("float", .float), ("timestamp", .timestamp),
    ("str", .text), ("binary", .bytes), ("seq", .sequence), ("map", .mapping), ("set", .set),
    ("omap", .pairs), ("pairs", .pairs), ("merge", .merge), ("value", .defaultKey)]

/-- The kind that a tag tells. -/
def ofTag (tag : String) : Kind :=
  ((named.find? fun (name, _) => sharedTags ++ name = tag).map (·.2)).getD .unknown

end Kind

/-- Splits off a run of characters that has at least one. -/
def run? (belongs : Char → Bool) (cs : List Char) : Option (List Char) :=
  match cs.takeWhile belongs with
  | [] => none
  | taken => some (cs.drop taken.length)

/-- A text without a sign in front. -/
def unsigned (cs : List Char) : List Char :=
  match cs with
  | '+' :: rest => rest
  | '-' :: rest => rest
  | other => other

/-- Whether a character is a digit or a low line. -/
def isDigitOrLine (c : Char) : Bool :=
  c.isDigit || c = '_'

/-- Whether a text is colons, each with a number below sixty of one or two digits. -/
def isSixtieths (cs : List Char) : Bool :=
  match cs.splitOn ':' with
  | [] :: first :: rest =>
    (first :: rest).all fun part => match part with
      | [unit] => unit.isDigit
      | [ten, unit] => '0' ≤ ten && ten ≤ '5' && unit.isDigit
      | _ => false
  | _ => false

/-- Whether a plain scalar has the form of a whole number. -/
def isIntForm (cs : List Char) : Bool :=
  match unsigned cs with
  | '0' :: 'b' :: rest => !rest.isEmpty && rest.all fun c => c = '0' || c = '1' || c = '_'
  | '0' :: 'x' :: rest => !rest.isEmpty && rest.all fun c => (Json.hexValue? c).isSome || c = '_'
  | '0' :: rest => rest.all fun c => ('0' ≤ c && c ≤ '7') || c = '_'
  | first :: rest =>
    first.isDigit &&
      (rest.all isDigitOrLine || isSixtieths (rest.dropWhile isDigitOrLine))
  | [] => false

/-- Whether a text is nothing, or an exponent with its sign. -/
def isExponent : List Char → Bool
  | [] => true
  | mark :: sign :: digits =>
    (mark = 'e' || mark = 'E') && (sign = '+' || sign = '-') && !digits.isEmpty &&
      digits.all Char.isDigit
  | _ => false

/-- Whether a plain scalar has the form of a floating-point number. -/
def isFloatForm (cs : List Char) : Bool :=
  let body := unsigned cs
  match body with
  | '.' :: rest =>
    let word := String.ofList rest
    let digits := rest.takeWhile isDigitOrLine
    ["inf", "Inf", "INF"].contains word || (body = cs && ["nan", "NaN", "NAN"].contains word) ||
      (body = cs && rest.head?.any Char.isDigit && isExponent (rest.drop digits.length))
  | first :: _ =>
    let after := body.dropWhile isDigitOrLine
    first.isDigit && match after with
      | '.' :: rest => isExponent (rest.dropWhile isDigitOrLine)
      | ':' :: _ =>
        let sixtieths := after.takeWhile (· ≠ '.')
        let rest := after.drop sixtieths.length
        isSixtieths sixtieths && rest.head? = some '.' && (rest.drop 1).all isDigitOrLine
      | _ => false
  | [] => false

/-- The parts of a timestamp as they are written. -/
structure TimestampParts where
  year : List Char
  month : List Char
  day : List Char
  /-- Hours, minutes, seconds and the digits of their fraction. -/
  clock : Option (List Char × List Char × List Char × List Char)
  /-- Nothing for a time without offset; no sign for universal time. -/
  offset : Option (Option Char × List Char × List Char)

/-- One or two digits at the front of a text, and the rest. -/
def oneOrTwoDigits? (cs : List Char) : Option (List Char × List Char) :=
  match (cs.takeWhile Char.isDigit).take 2 with
  | [] => none
  | digits => some (digits, cs.drop digits.length)

/-- Exactly so many digits at the front of a text, and the rest. -/
def exactDigits? (count : Nat) (cs : List Char) : Option (List Char × List Char) :=
  let digits := cs.take count
  if digits.length = count && digits.all Char.isDigit then some (digits, cs.drop count) else none

/-- Reads the offset at the end of a timestamp. -/
def offsetParts? (cs : List Char) : Option (Option (Option Char × List Char × List Char)) :=
  match cs.dropWhile fun c => c = ' ' || c = '\t' with
  | [] => if cs.isEmpty then some none else none
  | ['Z'] => some (some (none, [], []))
  | sign :: rest => do
    guard (sign = '+' ∨ sign = '-')
    let (hours, rest) ← oneOrTwoDigits? rest
    match rest with
    | [] => some (some (some sign, hours, []))
    | rest => do
      let (minutes, rest) ← exactDigits? 2 (← Time.expect? [':'] rest)
      guard rest.isEmpty
      some (some (some sign, hours, minutes))

/-- A text without the line break at its end. -/
def withoutLastBreak (cs : List Char) : List Char :=
  if cs.getLast? = some '\n' then cs.dropLast else cs

/-- Reads the parts of a timestamp. -/
def timestampParts? (cs : List Char) : Option TimestampParts := do
  let (year, cs) ← exactDigits? 4 cs
  let (month, cs) ← oneOrTwoDigits? (← Time.expect? ['-'] cs)
  let (day, cs) ← oneOrTwoDigits? (← Time.expect? ['-'] cs)
  match cs with
  | [] => some ⟨year, month, day, none, none⟩
  | mark :: rest => do
    let isSpace (c : Char) : Bool := c = ' ' || c = '\t'
    guard (mark = 'T' ∨ mark = 't' ∨ isSpace mark)
    let (hours, cs) ← oneOrTwoDigits? (if isSpace mark then rest.dropWhile isSpace else rest)
    let (minutes, cs) ← exactDigits? 2 (← Time.expect? [':'] cs)
    let (seconds, cs) ← exactDigits? 2 (← Time.expect? [':'] cs)
    let (fraction, cs) := match cs with
      | '.' :: rest => (rest.takeWhile Char.isDigit, rest.dropWhile Char.isDigit)
      | rest => ([], rest)
    some ⟨year, month, day, some (hours, minutes, seconds, fraction), ← offsetParts? cs⟩

/-- Whether a plain scalar has the form of a timestamp; a date alone has two digits for month and day. -/
def isTimestampForm (cs : List Char) : Bool :=
  match timestampParts? cs with
  | some parts => parts.clock.isSome || (parts.month.length = 2 && parts.day.length = 2)
  | none => false

/-- The words that stand for nothing. -/
def nullWords : List String := ["", "~", "null", "Null", "NULL"]

/-- The words that stand for truth values, in lower case. -/
def boolWords : List (String × Bool) :=
  [("yes", true), ("no", false), ("true", true), ("false", false), ("on", true), ("off", false)]

/-- Whether a text is a word in lower case, in upper case or with one capital in front. -/
def isCasedWord (word : String) (text : String) : Bool :=
  text = word || text = word.map Char.toUpper || text = word.capitalize

/-- The kind of a scalar by its form. A line break at the end of it does not count, unless it is all. -/
def plainKind (text : String) : Kind :=
  let cs := if text = "\n" then ['\n'] else withoutLastBreak text.toList
  let text := String.ofList cs
  if nullWords.contains text then .null
  else if boolWords.any fun (word, _) => isCasedWord word text then .bool
  else if isFloatForm cs then .float
  else if isIntForm cs then .int
  else if text = "<<" then .merge
  else if isTimestampForm cs then .timestamp
  else if text = "=" then .defaultKey
  else .text

end Workflow.Yaml
