import Workflow.Action.Context
import Workflow.Action.Result
import Workflow.Http.Response
import Workflow.Template

/-!
# The action that sends requests

Address and data are rendered with the data of the workflow. Requests that fetch or delete carry the
data as their query, all others as a JSON body. A response outside the range of success is a failed
result.
-/

namespace Workflow

namespace HttpAction

/-- The methods that requests may have. -/
def methods : List String := ["GET", "POST", "PUT", "PATCH", "DELETE"]

/-- Whether requests of a method carry their data in the query. -/
def sendsQuery (method : String) : Bool :=
  method == "GET" || method == "DELETE"

/-- A request to be sent, with what is told about it in the result. -/
structure Sending where
  method : String
  /-- The rendered address. -/
  url : String
  /-- The address of the request with its query. -/
  address : Http.Address
  request : Http.Request
  deriving DecidableEq

/-- What the parameters of the action call for. -/
inductive Plan where
  | refuse (message : String)
  | send (sending : Sending)

/-- The value of a parameter, or a default if it is missing. -/
def parameter (context : Context) (name : String) (default : Value) : Value :=
  (Dict.field? context.config name).getD default

/-- The headers of a request: a body is told to be JSON unless the headers say otherwise, and an address
that names a user authorizes the request. -/
def allHeaders (headers : List (String × String)) (hasBody : Bool) (authorization? : Option String) :
    List (String × String) :=
  let given := Http.joinedHeaders headers
  let typed :=
    if hasBody && given.all (·.1 != "content-type") then given ++ [("content-type", "application/json")]
    else given
  match authorization? with
  | some authorization =>
    typed.filter (·.1 != "authorization") ++ [("authorization", authorization)]
  | none => typed

/-- The first fault of the body and of the host, which is told in a header of its own unless the headers
give one. -/
def partsFault? (address : Http.Address) (headers : List (String × String)) (body : Option Value) :
    Option Fault :=
  let namesHost := headers.any fun (name, _) => Text.lower name == "host"
  let host := String.ofList { address with user := [] }.authority
  (body.bind Http.bodyFault?).or <|
    (if namesHost then none else Http.headerFault? host).or (Http.Host.fault? address.host)

/-- The request for an address with the given headers and data. -/
def sending (method url : String) (headers : List (String × String)) (data : Value) :
    Except Fault Sending := do
  let address := (← Http.Address.read url).resolved
  match (headers.flatMap fun (name, value) => [name, value]).findSome? Http.headerFault? with
  | some fault => .error fault
  | none => do
    let asked ←
      if sendsQuery method then do
        let parameters ← Http.parametersOf data
        .ok { address with query := parameters.query? }
      else .ok address
    let body := if sendsQuery method then none else some data
    let address ← asked.readAgain
    match partsFault? address headers body with
    | some fault => .error fault
    | none =>
      let parameters := (Http.Parameters.ofQuery (address.query.getD [])).pairs
      let headers := allHeaders headers body.isSome address.authorization?
      .ok ⟨method, url, address,
        ⟨method, address.place, parameters, headers, body.map Http.received⟩⟩

/-- What the parameters of the action call for, rendered with the data of the workflow. -/
def plan (context : Context) : Except Failure Plan := do
  let url := parameter context "url" .null
  let method := Text.upper (parameter context "method" (.text "GET")).plain
  if !url.truthy then .ok (.refuse "URL is required for HTTP action")
  else if !methods.contains method then .ok (.refuse s!"Unsupported HTTP method: {method}")
  else do
    let workflowData := Value.dict context.data
    let url ← Template.render url.plain workflowData
    let given := parameter context "data" .null
    let data ← Template.renderValue workflowData (if given.truthy then given else .dict [])
    let headers ← (Http.headersOf (parameter context "headers" .null)).mapError .fault
    Plan.send <$> (sending method url headers data).mapError .fault

/-- The result for a response. -/
def responseResult (sending : Sending) (response : Http.Response) : Except Failure ActionResult := do
  let told := [("url", Value.text sending.url), ("method", .text sending.method)]
  if response.isSuccess then
    let value ← response.value.mapError .fault
    .ok <| .succeed <| Dict.ofFields <|
      [("status_code", .int response.status), ("response_data", value),
        ("headers", .dict response.shownHeaders)] ++ told
  else
    let text ← response.text.mapError .fault
    ActionResult.failed s!"HTTP request failed with status {response.status}: {text}" <|
      Dict.ofFields <| [("status_code", .int response.status), ("response_body", .text text)] ++ told

/-- The result for what became of a request. -/
def result (sending : Sending) (outcome : Http.Outcome) : Except Failure ActionResult :=
  match outcome.settled sending.address with
  | .failure failure => .error failure
  | .unreached message =>
    ActionResult.failed s!"HTTP request exception: {message}" <| Dict.ofFields
      [("exception", .text message), ("url", .text sending.url), ("method", .text sending.method)]
  | .response response => responseResult sending response

end HttpAction

end Workflow
