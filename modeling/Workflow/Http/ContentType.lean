import Workflow.Http.Percent
import Workflow.Text.Blank

/-!
# Content types

A content type is followed by parameters with semicolons before them. The value of a parameter may stand in
quotes. A long value may be given in numbered parts, and the parts may be percent encoded, behind the names
of a charset and a language.
-/

namespace Workflow.Http.ContentType

/-- Splits a content type at its semicolons, but not inside quotes. `open?` tells whether quotes are open
here, `part` holds the characters since the last semicolon in reverse. -/
def partsFrom (isOpen : Bool) (part : List Char) : List Char → List (List Char)
  | [] => [part.reverse]
  | '\\' :: '"' :: rest => partsFrom isOpen ('"' :: '\\' :: part) rest
  | '"' :: rest => partsFrom (!isOpen) ('"' :: part) rest
  | ';' :: rest =>
    if isOpen && !part.isEmpty then partsFrom isOpen (';' :: part) rest
    else part.reverse :: partsFrom false [] rest
  | c :: rest => partsFrom isOpen (c :: part) rest

/-- The name of a parameter in lower case, and its value. -/
def parameterOf (part : List Char) : List Char × List Char :=
  ((Text.trim (part.takeWhile (· ≠ '='))).map Char.toLower,
    Text.trim ((part.dropWhile (· ≠ '=')).drop 1))

/-- A quoted text without its escapes of backslashes. -/
def withoutBackslashes : List Char → List Char
  | '\\' :: '\\' :: rest => '\\' :: withoutBackslashes rest
  | c :: rest => c :: withoutBackslashes rest
  | [] => []

/-- A text without its escapes of quotes. -/
def withoutQuoteEscapes : List Char → List Char
  | '\\' :: '"' :: rest => '"' :: withoutQuoteEscapes rest
  | c :: rest => c :: withoutQuoteEscapes rest
  | [] => []

/-- A value without the quotes or the angles around it. -/
def unquoted (value : List Char) : List Char :=
  let inside := (value.drop 1).dropLast
  if value.length < 2 then value
  else if value.head? = some '"' && value.getLast? = some '"' then
    withoutQuoteEscapes (withoutBackslashes inside)
  else if value.head? = some '<' && value.getLast? = some '>' then inside
  else value

/-- The number of a part of a value and whether the part is encoded, if a name is that of such a part. -/
def partNumber? (wanted name : List Char) : Option (Option Nat × Bool) :=
  match (name.splitOn '*').map String.ofList with
  | [base, ""] => if base = String.ofList wanted then some (none, true) else none
  | [base, number] => if base = String.ofList wanted then number.toNat?.map (some ·, false) else none
  | [base, number, ""] =>
    if base = String.ofList wanted then number.toNat?.map (some ·, true) else none
  | _ => none

/-- What stands behind the second single quote; the whole text if there are fewer. -/
def behindLanguage (text : List Char) : List Char :=
  match (text.dropWhile (· ≠ '\x27')).drop 1 with
  | [] => text
  | rest =>
    match rest.dropWhile (· ≠ '\x27') with
    | [] => text
    | _ :: content => content

/-- A value that is put together from its parts, in the order of their numbers. -/
def assembled (parts : List ((Option Nat × Bool) × List Char)) : List Char :=
  let sorted := parts.mergeSort fun ((left, _), part) ((right, _), other) =>
    left.getD 0 < right.getD 0 || left.getD 0 = right.getD 0 && String.ofList part ≤ String.ofList other
  let whole := sorted.flatMap fun ((_, encoded), part) =>
    if encoded then
      (percentDecoded (String.ofList part).toUTF8.toList).map fun byte => Char.ofNat byte.toNat
    else part
  if sorted.any (·.1.2) then behindLanguage whole else whole

/-- The value of a parameter of a content type. -/
def parameter? (name : String) (contentType : String) : Option (List Char) :=
  let wanted := name.toList
  let parameters := (partsFrom false [] contentType.toList).map parameterOf
  match parameters.find? (·.1 = wanted) with
  | some (_, value) => some (unquoted value)
  | none =>
    let parts := (parameters.drop 1).filterMap fun (other, value) =>
      (partNumber? wanted other).map fun number => (number, unquoted value)
    if parts.isEmpty then none else some (assembled parts)

/-- The name of the charset of a content type. -/
def charset? (contentType : String) : Option String :=
  match parameter? "charset" contentType with
  | some name =>
    if name.all (·.toNat < 0x80) then some (String.ofList (name.map Char.toLower)) else none
  | none => none

end Workflow.Http.ContentType
