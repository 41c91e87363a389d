import Workflow.Text.Encoding
import Workflow.Text.Quoted

/-!
# Percent encoding

The bytes of characters that an address cannot hold are written as a per cent sign and two digits. In a
query a blank may also be written as a plus sign.
-/

namespace Workflow.Http

/-- A byte as a per cent sign and two digits. -/
def percentByte (byte : UInt8) : List Char :=
  '%' :: (Text.hex 2 byte.toNat).map Char.toUpper

/-- A text in which the bytes of all characters but the accepted ones are encoded. -/
def percentEncoded (accepts : Char → Bool) (cs : List Char) : List Char :=
  cs.flatMap fun c =>
    if accepts c then [c] else (String.singleton c).toUTF8.toList.flatMap percentByte

/-- Whether a character is written as it is in every part of an address. -/
def isUnreserved (c : Char) : Bool :=
  c.isAlphanum || c = '-' || c = '.' || c = '_' || c = '~'

/-- Whether a character may stand in a path. -/
def isPathChar (c : Char) : Bool :=
  0x20 < c.toNat && c.toNat < 0x7F && c ∉ ['\"', '#', '<', '>', '?', '\x60', '{', '}']

/-- The bytes of a text in which some are encoded. -/
def percentDecoded : List UInt8 → List UInt8
  | percent :: high :: low :: rest =>
    match percent.toNat == 0x25, digit? high, digit? low with
    | true, some high, some low => UInt8.ofNat (high * 16 + low) :: percentDecoded rest
    | _, _, _ => percent :: percentDecoded (high :: low :: rest)
  | short => short
where
  /-- The value of a digit of base sixteen. -/
  digit? (byte : UInt8) : Option Nat :=
    let code := byte.toNat
    if 0x30 ≤ code ∧ code ≤ 0x39 then some (code - 0x30)
    else if 0x41 ≤ code ∧ code ≤ 0x46 then some (code - 0x37)
    else if 0x61 ≤ code ∧ code ≤ 0x66 then some (code - 0x57)
    else none

/-- The text that a text stands for in which some bytes are encoded. -/
def percentText (cs : List Char) : String :=
  Text.decodeUtf8Lossy (percentDecoded (String.ofList cs).toUTF8.toList)

/-- What a part of a query stands for. -/
def queryDecoded (cs : List Char) : String :=
  percentText (cs.map fun c => if c = '+' then ' ' else c)

/-- A part of a query. -/
def queryEncoded (text : String) : List Char :=
  (percentEncoded (fun c => isUnreserved c || c = ' ') text.toList).map fun c =>
    if c = ' ' then '+' else c

/-- The parameters of a query: names in order, each with its values. -/
abbrev Parameters := List (String × List String)

namespace Parameters

/-- Puts a value behind those that its name has. -/
def add : Parameters → String → String → Parameters
  | [], name, value => [(name, [value])]
  | (other, values) :: rest, name, value =>
    if other = name then (other, values ++ [value]) :: rest else (other, values) :: add rest name value

/-- Gives a name the given values and no others. -/
def put : Parameters → String → List String → Parameters
  | [], name, values => [(name, values)]
  | (other, old) :: rest, name, values =>
    if other = name then (other, values) :: rest else (other, old) :: put rest name values

/-- The pairs of names and values. -/
def pairs (parameters : Parameters) : List (String × String) :=
  parameters.flatMap fun (name, values) => values.map (name, ·)

/-- The parameters that a query holds. -/
def ofQuery (query : List Char) : Parameters :=
  let fields := (query.splitOn '&').filter (!·.isEmpty)
  fields.foldl
    (fun parameters field =>
      parameters.add (queryDecoded (field.takeWhile (· ≠ '=')))
        (queryDecoded ((field.dropWhile (· ≠ '=')).drop 1)))
    []

/-- The query that holds parameters, if there are any. -/
def query? (parameters : Parameters) : Option (List Char) :=
  if parameters.isEmpty then none
  else some <| List.intercalate ['&'] <| parameters.pairs.map fun (name, value) =>
    queryEncoded name ++ '=' :: queryEncoded value

end Parameters

end Workflow.Http
