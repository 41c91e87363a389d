import Workflow.Error.Named
import Workflow.Rehearsal.Basic
import Workflow.Run.Engine

/-!
# Scripted actions

What each scripted action does, as its parameters say, and how the requests of a rehearsal are answered.
Actions may call the engine, whose actions may call it again; how deep that goes is bounded.
-/

namespace Workflow

/-- Answers to requests in a rehearsal. -/
abbrev RehearsalServer := (request : Request) → RehearsalM request.Answer

/-- A parameter of an invocation, or a default. -/
def Invocation.parameter (invocation : Invocation) (path : String) (default : Value) : Value :=
  match invocation.context.getConfig? path with
  | .ok (some value) => value
  | _ => default

/-- Whether a parameter of an invocation counts as true. -/
def Invocation.asks (invocation : Invocation) (path : String) : Bool :=
  (invocation.parameter path .null).truthy

/-- A whole number, or a default for any other value. -/
def intOr (default : Int) : Value → Int
  | .int value => value
  | _ => default

/-- A text, or a default for any other value. -/
def textOr (default : String) : Value → String
  | .text value => value
  | _ => default

/-- The items of a list, or a default for any other value. -/
def itemsOr (default : List Value) : Value → List Value
  | .list items => items
  | _ => default

/-- The fault of a kind with its arguments, or the one that the arguments make. -/
def faultOf : List Value → Except Fault Fault
  | .text kind :: arguments => Fault.named kind arguments
  | _ => .ok (.raised "Exception" [])

/-- What comes of raising a fault of a kind with its arguments in work that is waited for. -/
def raisedFault (description : List Value) : Fault :=
  (match faultOf description with
    | .ok fault => fault
    | .error fault => fault).awaited

/-- The kinds of faults of a request that is not answered. -/
def unreachedKinds : List String :=
  ["HTTPError", "RequestError", "TransportError", "TimeoutException", "ConnectTimeout", "ReadTimeout",
    "WriteTimeout", "PoolTimeout", "NetworkError", "ConnectError", "ReadError", "WriteError", "CloseError",
    "ProtocolError", "LocalProtocolError", "RemoteProtocolError", "ProxyError", "UnsupportedProtocol",
    "DecodingError", "TooManyRedirects"]

/-- Kinds of faults that have a text of their own. -/
def wordlessKinds : List String :=
  ["StreamConsumed", "StreamClosed", "ResponseNotRead", "RequestNotRead"]

/-- What comes of a request at which the server raises a fault of a kind with a message. -/
def raisedOutcome (kind : String) (message : Value) : Http.Outcome :=
  if unreachedKinds.contains kind then .unreached message.plain
  else if kind = "HTTPStatusError" then
    .failure <| .fault <| .stated "TypeError" <|
      s!"{kind}.__init__() missing 2 required keyword-only arguments: 'request' and 'response'"
  else if wordlessKinds.contains kind then
    .failure <| .fault <| .stated "TypeError" <|
      s!"{kind}.__init__() takes 1 positional argument but 2 were given"
  else .failure (.fault (raisedFault [.text kind, message]))

/-- The failure of a step from its message, step, attempt, retries and action. -/
def stepErrorOf (arguments : List Value) : StepError :=
  ⟨.stated (textOr "" (arguments.getD 0 .null)) ((arguments.getD 5 .null).dict?.getD []),
    textOr "" (arguments.getD 1 .null), intOr 1 (arguments.getD 2 .null),
    intOr 0 (arguments.getD 3 .null), (arguments.getD 4 .null).text?⟩

namespace Scripted

/-- Success with named data. -/
def succeedWith (data : List (String × Value)) : Except Failure Reply :=
  .ok (.result (.succeed (Dict.ofFields data)))

/-- Success with the output that the parameters give. -/
def succeedWithOutput (invocation : Invocation) : Except Failure Reply :=
  Reply.result <$> ActionResult.success (invocation.parameter "output" .null) .null

/-- Failure with a message. -/
def failWith (message : String) : Except Failure Reply :=
  Reply.result <$> ActionResult.failed message []

/-- Whether a guarded action may be performed: as the parameters answer, question by question. -/
def guardPermits (invocation : Invocation) : RehearsalM (Except Failure Bool) := do
  if invocation.asks "raise" then
    pure (.error (.fault (.stated "ValueError" "guard exploded")))
  else if invocation.asks "requires" then
    pure do
      let path ← ((invocation.parameter "requires" .null).asked "split").mapError .fault
      return ((← (invocation.context.get? path).mapError .integer).isSome)
  else do
    let before ← Rehearsal.noteQuestion invocation.context.stepId
    let answers := itemsOr [] (invocation.parameter "answers" .null)
    pure (.ok (answers.getD (min before (answers.length - 1)) (.bool true)).truthy)

/-- Whether a scripted action may be performed. -/
def permits (action : Scripted) (invocation : Invocation) : RehearsalM (Except Failure Bool) :=
  if action = .guarded then guardPermits invocation else pure (.ok true)

/-- What an action was given, as it echoes it. -/
def echoed (context : Context) : Value :=
  let inst := match context.inst with
    | some inst =>
      Value.list [.text inst.state.name, inst.currentStep, .list inst.completed]
    | none => .null
  .ofFields
    [("data", .dict context.data), ("config", .dict context.config),
      ("workflow_id", .text context.workflowId), ("instance", inst), ("name", .text echo.name),
      ("description", .text description)]

/-- Whether a count has not passed a limit, which has to be a number. -/
def isWithin (count : Nat) : Value → Except Failure Bool
  | .bool limit => .ok (count ≤ if limit then 1 else 0)
  | .int limit => .ok (count ≤ limit)
  | .float limit => .ok ((Condition.numberOrder? (.int count) (.float limit)).any (· ≠ .gt))
  | other =>
    .error <| .fault <| .stated "TypeError" <|
      s!"'<=' not supported between instances of 'int' and {Text.quoted other.kindName}"

/-- Whether a count is among what a value holds. -/
def isAmong (count : Nat) : Value → Except Failure Bool
  | .list items => .ok (items.any (·.equals (.int count)))
  | .dict entries => .ok (entries.any (·.1.equals (.int count)))
  | .text _ =>
    .error (.fault (.stated "TypeError" "'in <string>' requires string as left operand, not int"))
  | other =>
    .error <| .fault <| .stated "TypeError" <|
      s!"argument of type {Text.quoted other.kindName} is not iterable"

/-- What a direct action gives back, in the given attempt. -/
def directReply (invocation : Invocation) (count : Nat) : Except Failure Reply :=
  match Dict.field? invocation.context.config "step_error",
      invocation.parameter "raise" .null, Dict.field? invocation.context.config "value" with
  | some arguments, _, _ => .error (.workflow (.step (stepErrorOf (itemsOr [] arguments))))
  | none, .list raised, _ => do
    if ← isWithin count (invocation.parameter "fail_times" (.int 1000)) then
      .error (.fault (raisedFault raised))
    else succeedWithOutput invocation
  | none, _, some value => .ok (.other value)
  | none, _, none => succeedWithOutput invocation

/-- How many arguments a call of the engine takes beyond the id: at least, and at most. -/
def engineArguments? : String → Option (Nat × Nat)
  | "start" => some (1, 2)
  | "cancel" => some (0, 1)
  | "resume" | "pause" | "delete" | "exists" | "get_instance" | "get_status" => some (0, 0)
  | _ => none

/-- What is wrong with a call of the engine, if it is no call or has too few or too many arguments. -/
def engineMisuse? (name : String) (count : Nat) : Option Fault :=
  match engineArguments? name with
  | none => some (.lacksMember "WorkflowEngine" name)
  | some (least, most) =>
    let refused (text : String) : Option Fault :=
      some (.stated "TypeError" s!"WorkflowEngine.{name}() {text}")
    if count < least then refused "missing 1 required positional argument: 'definition'"
    else if most < count then
      let taken := if least = most then s!"{most + 2}" else s!"from {least + 2} to {most + 2}"
      refused s!"takes {taken} positional arguments but {count + 2} were given"
    else none

/-- The call of the engine that a name stands for, on an instance and with further arguments. -/
def callEngine (serve : RehearsalServer) (name id : String) (arguments : List Value) :
    RehearsalM (Except Failure Unit) := do
  let engine ← Rehearsal.runner
  let argument (index : Nat) : Value := arguments.getD index .null
  let dropped {α : Type} (result : Except Failure α) : Except Failure Unit := result.map fun _ => ()
  match engineMisuse? name arguments.length, name with
  | some fault, _ => pure (.error (.fault fault))
  | none, "start" =>
    dropped <$> (engine.start (some id) (.document (argument 0)) (argument 1)).perform serve
  | none, "resume" => dropped <$> (engine.resume id).perform serve
  | none, "cancel" => dropped <$> (engine.cancel id (arguments.headD (.text ""))).perform serve
  | none, "delete" => (Engine.delete id).perform serve
  | none, "exists" => dropped <$> (Engine.taken id).perform serve
  | none, "get_instance" => dropped <$> (Engine.instance? id).perform serve
  | none, "get_status" => dropped <$> (Engine.status id).perform serve
  | none, _ => dropped <$> (engine.pause id).perform serve

/-- Calls the engine, if this attempt is one to do so, and then ends as the parameters say. -/
def interruptReply (serve : RehearsalServer) (invocation : Invocation) (count : Nat) :
    RehearsalM (Except Failure Reply) := do
  let called ← match isAmong count (invocation.parameter "on" (.list [.int 1])) with
    | .error failure => pure (.error failure)
    | .ok true =>
      callEngine serve (textOr "pause" (invocation.parameter "call" .null))
        invocation.context.workflowId (itemsOr [] (invocation.parameter "args" .null))
    | .ok false => pure (.ok ())
  match called with
  | .error failure => pure (.error failure)
  | .ok _ =>
    if invocation.asks "then_fail" then pure (failWith "interrupted and failed")
    else pure (succeedWith [("interrupted_step", .text invocation.context.stepId)])

/-- The work of a scripted action. -/
def work (serve : RehearsalServer) (action : Scripted) (invocation : Invocation) :
    RehearsalM (Except Failure Reply) := do
  if action = .bare then return .error (.fault (.raised "NotImplementedError" []))
  let count ← Rehearsal.noteCall action invocation.context.stepId
  match action with
  | .flaky =>
    pure do
      if ← isWithin count (invocation.parameter "fail_times" (.int 1)) then
        failWith "transient failure"
      else succeedWith [("recovered", .bool true), ("attempts", .int count)]
  | .fail =>
    pure (Reply.result <$> ActionResult.failure (invocation.parameter "message" (.text "boom"))
      (invocation.parameter "metadata" .null))
  | .raise =>
    let raised := invocation.parameter "kind" (.text "RuntimeError") ::
      itemsOr [] (invocation.parameter "args" .null)
    pure (.error (.fault (raisedFault raised)))
  | .echo => pure (succeedWith [("echo", echoed invocation.context)])
  | .scribble => pure (succeedWith [("items", .list [.int 1])])
  | .interrupt => interruptReply serve invocation count
  | .compensate =>
    if invocation.asks "fail_compensation" then
      pure (.error (.fault (.stated "RuntimeError" "compensation failed")))
    else pure (succeedWith [("compensated", .bool true)])
  | .direct => pure (directReply invocation count)
  | _ => pure (succeedWithOutput invocation)

/-- Makes a scripted action. -/
def make (action : Scripted) (invocation : Invocation) : Except Failure Unit :=
  if action = .unmakeable then
    .error (.fault (.raised "ValueError" [invocation.parameter "message" (.text "bad config")]))
  else .ok ()

end Scripted

namespace Rehearsal

/-- Performs a registered action. -/
def performAction (serve : RehearsalServer) (invocation : Invocation) :
    RehearsalM (Except Failure Reply) := do
  let rehearsal : Rehearsal ← get
  match rehearsal.registry.find? invocation.action with
  | some (.builtin action) =>
    let session ← getThe Session
    (action.perform invocation.context session.now).perform serve
  | some (.scripted action) =>
    let work := action.work serve invocation
    if action = .direct then work
    else
      carryOut (fun record => modifyThe Session (Session.keepLog record)) action.name
        invocation.context (action.permits invocation) work
  | none => pure (.error (.workflow (.actionNotFound (.text invocation.action) none [])))

/-- Who answers what the session does not: the scripted actions and the scripted server. Their own
requests are answered by `serve`. -/
def outside (serve : RehearsalServer) : Outside RehearsalM where
  make invocation := do
    let rehearsal : Rehearsal ← get
    match rehearsal.registry.find? invocation.action with
    | some (.scripted action) => pure (action.make invocation)
    | _ => pure (.ok ())
  permits invocation := do
    let rehearsal : Rehearsal ← get
    match rehearsal.registry.find? invocation.action with
    | some (.scripted action) => action.permits invocation
    | _ => pure (.ok true)
  perform := performAction serve
  server := server

/-- Nobody answers from outside any more. -/
def exhausted : Outside RehearsalM where
  make _ := pure (.ok ())
  permits _ := pure (.ok true)
  perform _ := pure (.error (.fault (.stated "RecursionError" "maximum recursion depth exceeded")))
  server := server

/-- Answers the requests of a rehearsal, with actions that call the engine nested to a depth. -/
def serve : (depth : Nat) → RehearsalServer
  | _, .save inst => save inst
  | 0, request => Session.serve exhausted request
  | depth + 1, request => Session.serve (outside (serve depth)) request

end Rehearsal

end Workflow
