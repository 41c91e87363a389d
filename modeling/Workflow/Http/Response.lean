import Workflow.Http.Address
import Workflow.Http.Charset
import Workflow.Http.ContentType
import Workflow.Http.Deflated
import Workflow.Http.Query

/-!
# Responses

What a response holds, and what becomes of a response that sends on to another place. Nothing is sent on,
but the place has to be an address.
-/

namespace Workflow.Http

namespace Response

/-- The headers by their names, with the length of a body that is not empty unless the response tells
one. -/
def fields (response : Response) : List (String × String) :=
  let joined := joinedHeaders response.headers
  if response.body.isEmpty || joined.any (·.1 == "content-length") then joined
  else joined ++ [("content-length", toString response.body.utf8ByteSize)]

/-- The value of a header. -/
def header? (response : Response) (name : String) : Option String :=
  response.fields.lookup name

/-- The headers as a value. -/
def shownHeaders (response : Response) : Dict :=
  Dict.ofFields (response.fields.map fun (name, value) => (name, .text value))

/-- Takes bytes out of one packing. What is zipped begins with a mark that no text begins with. -/
def unpack (bytes : List UInt8) (packing : String) : Except String (List UInt8) :=
  let broken (reason : String) : String := "Error -3 while decompressing data: " ++ reason
  if packing = "gzip" then
    if bytes.length < 2 then .ok [] else .error (broken "incorrect header check")
  else if packing = "deflate" then (Deflated.inflate bytes).mapError broken
  else .ok bytes

/-- The packings of the body, the outermost first. -/
def packings (response : Response) : List String :=
  let named := ((response.header? "content-encoding").getD "").toList.splitOn ','
  (named.map fun name => Text.lower (String.ofList (Text.trim name))).reverse

/-- The bytes of the body without its packings, if it has them. -/
def unpacked (response : Response) : Except String (List UInt8) :=
  response.packings.foldlM unpack response.body.toUTF8.toList

/-- The bytes of the body without its packings. -/
def content (response : Response) : List UInt8 :=
  match response.unpacked with
  | .ok bytes => bytes
  | .error _ => []

/-- The charset of the body: the one that the headers name, if it is known. -/
def charset (response : Response) : Charset :=
  let named? := (response.header? "content-type").bind ContentType.charset?
  (named?.bind Charset.ofName?).getD (.utf8 false)

/-- The text of the body. -/
def text (response : Response) : Except Fault String :=
  if response.content.isEmpty then .ok "" else response.charset.decode response.content

/-- The body as a value: that of a JSON document, or else its text. -/
def value (response : Response) : Except Fault Value :=
  let read? :=
    (Text.decodeJsonBytes? response.content).bind fun text => (Json.readDecoded text).toOption
  match read? with
  | some value => .ok value
  | none => .text <$> response.text

/-- The fault of headers that hold characters beyond those of headers. -/
def headersFault? (response : Response) : Option Fault :=
  (response.headers.flatMap fun (name, value) => [name, value]).findSome? headerFault?

/-- The kinds of responses that send on to another place. -/
def sendingOn : List Int := [301, 302, 303, 307, 308]

/-- The place that a response sends on to. -/
def location? (response : Response) : Option String :=
  if sendingOn.contains response.status then response.header? "location" else none

end Response

/-- The fault that comes of sending on from one address to another, which may lack a host or a fragment. -/
def Address.redirectFault? (address target : Address) : Option Fault :=
  let isIncomplete := !target.scheme.isEmpty && target.host.isEmpty
  match if isIncomplete then target.withHost address.host else .ok target with
  | .error fault => some fault
  | .ok target =>
    let isKept := (percentText (target.fragment.getD [])).isEmpty
    let kept := if isKept then percentText (address.fragment.getD []) else ""
    (controlFault? " fragment component" kept.toList).or (Host.fault? target.host)

/-- What becomes of a response that sends a request at an address on to a location. -/
def Response.sentOn (response : Response) (address : Address) (location : String) : Outcome :=
  match Address.read location with
  | .error fault => .unreached s!"Invalid URL in location header: {fault.text}."
  | .ok target =>
    match address.redirectFault? target with
    | some fault => .failure (.fault fault)
    | none => .response response

/-- What becomes of a response to a request at an address. An address that names no server is found out
only now, and so is a place to be sent on to that is none. -/
def Response.settled (response : Response) (address : Address) : Outcome :=
  match response.headersFault?, response.unpacked with
  | some fault, _ => .failure (.fault fault)
  | none, .error message => .unreached message
  | none, .ok _ =>
    if !address.isAbsolute then
      .failure (.fault (.stated "ValueError" s!"unknown url type: {Text.quoted address.text}"))
    else match response.location? with
      | some location => response.sentOn address location
      | none => .response response

/-- What becomes of a request at an address in the end. -/
def Outcome.settled (outcome : Outcome) (address : Address) : Outcome :=
  match outcome with
  | .response answer => answer.settled address
  | other => other

end Workflow.Http
