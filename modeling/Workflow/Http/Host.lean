import Workflow.Error.Fault
import Workflow.Http.Label
import Workflow.Http.Percent
import Workflow.Text.Case

/-!
# Hosts

The host of an address is four numbers with dots between them, eight groups of digits in brackets, or a
name. Names are in lower case, those with characters beyond the plain ones in plain letters.
-/

namespace Workflow.Http

/-- The fault of a text that is no address. -/
def invalidAddress (text : String) : Fault :=
  .stated "InvalidURL" text

namespace Host

/-- Whether a text is made of a run of digits and so many more, with one character between each two. -/
def hasRuns : Nat → List Char → Bool
  | _, [] => false
  | more, c :: rest => c.isDigit && (hasRuns more rest || match more, rest with
    | 0, [] => true
    | more + 1, _ :: after => hasRuns more after
    | _, _ => false)

/-- Whether a text is one of the four numbers of a numeric host. -/
def isOctet (digits : List Char) : Bool :=
  1 ≤ digits.length && digits.length ≤ 3 && digits.all Char.isDigit &&
    (digits = ['0'] || digits.head? ≠ some '0') && (String.ofList digits).toNat?.any (· ≤ 255)

/-- Whether a text is four numbers with dots between them. -/
def isNumeric (text : List Char) : Bool :=
  let octets := text.splitOn '.'
  octets.length = 4 && octets.all isOctet

/-- Whether a text is one of the eight groups of a host in brackets: up to four digits of base sixteen. -/
def isGroup (digits : List Char) : Bool :=
  1 ≤ digits.length && digits.length ≤ 4 &&
    digits.all fun c => c.isDigit || 'a' ≤ c.toLower && c.toLower ≤ 'f'

/-- The groups that stand on one side of a gap; none do where the text begins or ends with the gap. -/
def beside (groups : List (List Char)) : List (List Char) :=
  if groups = [[]] then [] else groups

/-- Whether groups make up a host: eight of them, or fewer around one gap. -/
def fillGroups (groups : List (List Char)) : Bool :=
  let isGap (index : Nat) : Bool := 0 < index && index + 1 < groups.length && groups[index]? = some []
  match (List.range groups.length).filter isGap with
  | [] => groups.length = 8 && groups.all isGroup
  | [gap] =>
    let around := beside (groups.take gap) ++ beside (groups.drop (gap + 1))
    around.length < 8 && around.all isGroup
  | _ => false

/-- The groups of a text with colons between them. A numeric host at the end stands for two groups. -/
def groupsOf (text : List Char) : List (List Char) :=
  let groups := text.splitOn ':'
  if groups.getLast?.any isNumeric then groups.dropLast ++ [['0'], ['0']] else groups

/-- Whether a text is a host that is written in brackets. The name of a zone may follow a per cent sign. -/
def isGrouped (text : List Char) : Bool :=
  let zone? := match text.dropWhile (· ≠ '%') with
    | [] => none
    | _ :: zone => some zone
  zone?.all (fun zone => !zone.isEmpty && !zone.contains '%') &&
    fillGroups (groupsOf (text.takeWhile (· ≠ '%')))

/-- Whether a character may stand in a plain name. -/
def isNameChar (c : Char) : Bool :=
  isUnreserved c ||
    ['!', '$', '&', '\x27', '(', ')', '*', '+', ',', ';', '=', '\"', '\x60', '{', '}', '%', '|',
      '\\'].contains c

/-- A host in the form in which it is kept: without brackets, and with names in lower case. -/
def read (host : List Char) : Except Fault (List Char) :=
  let shown := Text.quoted (String.ofList host)
  if hasRuns 3 host then
    if isNumeric host then .ok host else .error (invalidAddress s!"Invalid IPv4 address: {shown}")
  else if host.head? = some '[' && host.getLast? = some ']' then
    let content := (host.drop 1).dropLast
    if isGrouped content then .ok content
    else .error (invalidAddress s!"Invalid IPv6 address: {shown}")
  else if host.all (·.toNat < 0x80) then .ok (percentEncoded isNameChar (host.map Char.toLower))
  else (encodedName (Text.lower (String.ofList host)).toList).mapError fun _ =>
    invalidAddress s!"Invalid IDNA hostname: {shown}"

/-- A host as it stands in an address: one of groups is put in brackets. -/
def shown (host : List Char) : List Char :=
  if host.contains ':' then '[' :: (host ++ [']']) else host

/-- The fault of a host that does not stand for a name, though its first label says that it does. -/
def fault? (host : List Char) : Option Fault :=
  if host.take 4 = Label.plainMark then
    (plainNameError? host).map fun error => .stated "IDNAError" error.message
  else none

end Host

end Workflow.Http
