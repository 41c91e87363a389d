import Workflow.Number.Numeral

/-!
# Timeouts and identifiers

The written forms of two kinds of text in a definition: a timeout is digits and one unit, from seconds
to days, and an identifier is a letter followed by letters, digits, underscores and hyphens. Each may
end in one line break.
-/

namespace Workflow

open Number

/-- How many seconds a unit of time has. -/
def unitSeconds? : Char → Option Nat
  | 's' => some 1
  | 'm' => some 60
  | 'h' => some 3600
  | 'd' => some 86400
  | _ => none

/-- The digits of a timeout and the seconds of its unit. -/
def timeoutParts? (timeout : String) : Option (List Nat × Nat) :=
  let (digits, rest) := takeDigits timeout.toList
  if digits.isEmpty then none
  else match rest with
    | [unit] => (unitSeconds? unit).map (digits, ·)
    | [unit, '\n'] => (unitSeconds? unit).map (digits, ·)
    | _ => none

/-- Whether a text has the form of a timeout. -/
def isTimeout (timeout : String) : Bool :=
  (timeoutParts? timeout).isSome

/-- Why a timeout has no number of seconds. -/
inductive TimeoutError where
  /-- The text has not the form of a timeout. -/
  | malformed (timeout : String)
  | integer (error : IntegerError)
  deriving DecidableEq

/-- The number of seconds of a timeout. -/
def timeoutSeconds (timeout : String) : Except TimeoutError Int :=
  match timeoutParts? timeout with
  | none => .error (.malformed timeout)
  | some (digits, unit) =>
    if digitLimit < digits.length then .error (.integer (.tooLong digits.length))
    else .ok (digitsValue digits * unit)

/-- Whether a character is a plain letter. -/
def isPlainLetter (c : Char) : Bool :=
  ('a' ≤ c && c ≤ 'z') || ('A' ≤ c && c ≤ 'Z')

/-- Whether a character may follow the first one of an identifier. -/
def isIdentifierChar (c : Char) : Bool :=
  isPlainLetter c || ('0' ≤ c && c ≤ '9') || c = '_' || c = '-'

/-- Whether a text is an identifier. -/
def isIdentifier (name : String) : Bool :=
  match name.toList with
  | [] => false
  | first :: rest =>
    let tail := if rest.getLast? = some '\n' then rest.dropLast else rest
    isPlainLetter first && tail.all isIdentifierChar

end Workflow
