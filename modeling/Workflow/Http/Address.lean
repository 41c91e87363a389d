import Workflow.Http.Host
import Workflow.Text.Base64

/-!
# Addresses

The parts of the address of a request, brought into one form: scheme and host in lower case, no service
number that the scheme implies, a path without dot segments, and everything that an address cannot hold
percent encoded.
-/

namespace Workflow.Http

/-- The parts of an address. -/
structure Address where
  scheme : List Char
  /-- The name of a user in front of the host, with a password behind a colon. -/
  user : List Char
  host : List Char
  /-- The number of the service, if it is not the one that the scheme implies. -/
  service : Option Int
  path : List Char
  query : Option (List Char)
  fragment : Option (List Char)
  deriving DecidableEq

namespace Address

/-- Splits off what stands before a colon, if it has the form of a scheme. -/
def takeScheme (cs : List Char) : List Char × List Char :=
  let isPart (c : Char) : Bool := c.isAlphanum || c = '+' || c = '.' || c = '-'
  match cs.takeWhile isPart, cs.dropWhile isPart with
  | [], ':' :: rest => ([], rest)
  | first :: more, ':' :: rest => if first.isAlpha then (first :: more, rest) else ([], cs)
  | _, _ => ([], cs)

/-- Splits off an authority, which holds everything between the slashes and the path, if there is one. -/
def takeAuthority : List Char → List Char × List Char
  | '/' :: '/' :: rest =>
    let ends (c : Char) : Bool := c = '/' || c = '?' || c = '#'
    (rest.takeWhile (!ends ·), rest.dropWhile (!ends ·))
  | cs => ([], cs)

/-- Splits off what stands behind a mark. -/
def takeMarked (mark : Char) (cs : List Char) : List Char × Option (List Char) :=
  match cs.dropWhile (· ≠ mark) with
  | [] => (cs, none)
  | _ :: rest => (cs.takeWhile (· ≠ mark), some rest)

/-- Splits off the user, who stands before the last at sign. -/
def takeUser (cs : List Char) : List Char × List Char :=
  let host := (cs.reverse.takeWhile (· ≠ '@')).reverse
  ((cs.take (cs.length - host.length)).dropLast, host)

/-- Splits a host from the service number behind it. -/
def takeHost (cs : List Char) : List Char × List Char :=
  let closed := cs.length - (cs.reverse.takeWhile (· ≠ ']')).length
  let size := if cs.head? = some '[' && 0 < closed then closed else (cs.takeWhile (· ≠ ':')).length
  match cs.drop size with
  | ':' :: digits => (cs.take size, digits)
  | rest => (cs.take size, rest)

/-- The segments of a path without those that stand for the same or the upper place. -/
def withoutDots (segments : List (List Char)) : List (List Char) :=
  segments.foldl
    (fun done segment =>
      if segment = ['.'] then done
      else if segment = ['.', '.'] then (if done = [] ∨ done = [[]] then done else done.dropLast)
      else done ++ [segment])
    []

/-- A path without dot segments. -/
def plainPath (path : List Char) : List Char :=
  let segments := path.splitOn '/'
  if segments.all fun segment => segment ≠ ['.'] ∧ segment ≠ ['.', '.'] then path
  else List.intercalate ['/'] (withoutDots segments)

/-- The service numbers that schemes imply. -/
def impliedServices : List (String × Int) :=
  [("ftp", 21), ("http", 80), ("https", 443), ("ws", 80), ("wss", 443)]

/-- The service number that digits stand for, if it is not implied. -/
def readService (scheme digits : List Char) : Except Fault (Option Int) :=
  if digits = [] then .ok none
  else match Number.readInteger (String.ofList digits) with
    | .ok number =>
      .ok (if impliedServices.lookup (String.ofList scheme) = some number then none else some number)
    | .error _ => .error (invalidAddress s!"Invalid port: {Text.quoted (String.ofList digits)}")

/-- Whether a character may stand in front of the host. -/
def isUserChar (c : Char) : Bool :=
  isPathChar c && c ∉ ['/', ';', '=', '@', '[', '\\', ']', '^', '|']

/-- Whether a character may stand in a query. -/
def isQueryChar (c : Char) : Bool :=
  isPathChar c || ['?', '\x60', '{', '}'].contains c

/-- Whether a character may stand in a fragment. -/
def isFragmentChar (c : Char) : Bool :=
  isPathChar c || ['?', '#', '{', '}'].contains c

/-- What is wrong with the path of an address. -/
def pathFault? (hasScheme hasAuthority : Bool) (path : List Char) : Option Fault :=
  if hasAuthority then
    if path.head?.any (· ≠ '/') then
      some (invalidAddress "For absolute URLs, path must be empty or begin with '/'")
    else none
  else if hasScheme then none
  else if path.take 2 = ['/', '/'] then
    some (invalidAddress "Relative URLs cannot have a path starting with '//'")
  else if path.head? = some ':' then
    some (invalidAddress "Relative URLs cannot have a path starting with ':'")
  else none

/-- The address of the given parts. A host that is given apart takes the place of the one in the
authority. -/
def ofParts (scheme authority path : List Char) (query fragment : Option (List Char))
    (host? : Option (List Char)) : Except Fault Address := do
  let (user, rest) := takeUser authority
  let (found, digits) := takeHost rest
  let host ← Host.read (host?.getD found)
  let service ← readService scheme digits
  let hasAuthority := !user.isEmpty || !host.isEmpty || service.isSome
  match pathFault? (!scheme.isEmpty) hasAuthority path with
  | some fault => .error fault
  | none =>
    let path := if scheme.isEmpty && !hasAuthority then path else plainPath path
    .ok ⟨scheme.map Char.toLower, percentEncoded isUserChar user, host, service,
      percentEncoded isPathChar path, query.map (percentEncoded isQueryChar),
      fragment.map (percentEncoded isFragmentChar)⟩

/-- Whether a character makes a text no address. -/
def isControl (c : Char) : Bool :=
  c.toNat < 0x20 || c.toNat = 0x7F

/-- The fault of a text that holds a character that no address holds; `part` names what it is part of. -/
def controlFault? (part : String) (cs : List Char) : Option Fault :=
  (cs.find? isControl).map fun c =>
    let place := (cs.takeWhile (· ≠ c)).length
    invalidAddress <| "Invalid non-printable ASCII character in URL" ++ part ++
      s!", {Text.quoted (String.singleton c)} at position {place}."

/-- The longest text that is read. -/
def longest : Nat := 65536

/-- Reads an address. -/
def read (text : String) : Except Fault Address :=
  let cs := text.toList
  if longest < cs.length then .error (invalidAddress "URL too long")
  else match controlFault? "" cs with
    | some fault => .error fault
    | none =>
      let (scheme, afterScheme) := takeScheme cs
      let (authority, afterAuthority) := takeAuthority afterScheme
      let (front, fragment) := takeMarked '#' afterAuthority
      let (path, query) := takeMarked '?' front
      ofParts scheme authority path query fragment none

/-- The user, the host and the service number, as they stand in an address. -/
def authority (address : Address) : List Char :=
  (if address.user.isEmpty then [] else address.user ++ ['@']) ++ Host.shown address.host ++
    (match address.service with
      | some number => ':' :: (toString number).toList
      | none => [])

/-- The same address with another host, its other parts read again. -/
def withHost (address : Address) (host : List Char) : Except Fault Address :=
  ofParts address.scheme address.authority address.path address.query address.fragment
    (some (Host.shown host))

/-- The address that its own text stands for. -/
def readAgain (address : Address) : Except Fault Address :=
  ofParts address.scheme address.authority address.path address.query address.fragment none

/-- Whether an address names a server. -/
def isAbsolute (address : Address) : Bool :=
  !address.scheme.isEmpty && !address.host.isEmpty

/-- The address under which a request is sent: one that names no server keeps only its path and query. -/
def resolved (address : Address) : Address :=
  if address.isAbsolute then address
  else ⟨[], [], [], none, '/' :: address.path.dropWhile (· = '/'), address.query, none⟩

/-- The text of an address. -/
def text (address : Address) : String :=
  let authority := address.authority
  String.ofList <|
    (if address.scheme.isEmpty then [] else address.scheme ++ [':']) ++
      (if authority.isEmpty then [] else '/' :: '/' :: authority) ++ address.path ++
      (match address.query with
        | some query => '?' :: query
        | none => []) ++
      (match address.fragment with
        | some fragment => '#' :: fragment
        | none => [])

/-- The text of an address without its query. -/
def place (address : Address) : String :=
  { address with query := none }.text

/-- What authorizes a request to an address that names a user or a password. -/
def authorization? (address : Address) : Option String :=
  let name := percentText (address.user.takeWhile (· ≠ ':'))
  let password := percentText ((address.user.dropWhile (· ≠ ':')).drop 1)
  if name.isEmpty && password.isEmpty then none
  else some ("Basic " ++
    String.ofList (Text.base64 (name ++ ":" ++ password).toUTF8.toList))

end Address

end Workflow.Http
