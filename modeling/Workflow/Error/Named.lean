import Workflow.Error.Fault

/-!
# Faults by name

Faults that are told by the name of their kind and their arguments. Failures of the operating system are
told apart by their code. Some kinds only go with arguments of a certain form; other arguments make a fault
of their own.
-/

namespace Workflow.Fault

/-- The kinds of failures of the operating system, with the codes that they stand for. -/
def systemKinds : List (String × List Int) :=
  [("PermissionError", [1, 13]), ("FileNotFoundError", [2]), ("ProcessLookupError", [3]),
    ("InterruptedError", [4]), ("ChildProcessError", [10]), ("BlockingIOError", [11, 114, 115]),
    ("FileExistsError", [17]), ("NotADirectoryError", [20]), ("IsADirectoryError", [21]),
    ("BrokenPipeError", [32, 108]), ("ConnectionAbortedError", [103]), ("ConnectionResetError", [104]),
    ("TimeoutError", [110]), ("ConnectionRefusedError", [111]), ("ConnectionError", []),
    ("OSError", []), ("IOError", []), ("EnvironmentError", [])]

/-- A fault of a call with arguments that do not go with it. -/
def misused (text : String) : Fault := .stated "TypeError" text

/-- A text among arguments. -/
def textArgument (call : String) (place : Nat) : Value → Except Fault String
  | .text text => .ok text
  | .null => .error (misused s!"{call}argument {place} must be str, not None")
  | other => .error (misused s!"{call}argument {place} must be str, not {other.kindName}")

/-- A whole number among arguments. -/
def wholeArgument : Value → Except Fault Int
  | .int number => .ok number
  | .bool value => .ok (if value then 1 else 0)
  | other => .error (misused s!"'{other.kindName}' object cannot be interpreted as an integer")

/-- The fault of a wrong number of arguments. -/
def miscounted (call : String) (wanted given : Nat) : Fault :=
  misused s!"{call} takes exactly {wanted} arguments ({given} given)"

/-- A failure of the operating system. A general one with a known code is one of the code's kind. -/
def system? (kind : String) : List Value → Option Fault
  | code :: reason :: more =>
    let general := ["OSError", "IOError", "EnvironmentError"].contains kind
    let known? : Option (String × List Int) := match code with
      | .int code => systemKinds.find? fun (_, codes) => codes.contains code
      | .bool code => systemKinds.find? fun (_, codes) => codes.contains (if code then 1 else 0)
      | _ => none
    let kind := if general then (known?.map (·.1)).getD "OSError" else kind
    if 3 < more.length then none else some (.system kind code reason more)
  | _ => none

/-- The fault of a text that cannot be written, from its arguments. -/
def unencodableOf (encoded : Bool) (arguments : List Value) : Except Fault Fault :=
  match encoded, arguments with
  | true, [encoding, text, start, stop, reason] => do
    let encoding ← textArgument "" 1 encoding
    let text ← textArgument "" 2 text
    return .unencodable (some encoding) text (← wholeArgument start) (← wholeArgument stop)
      (← textArgument "" 5 reason)
  | false, [text, start, stop, reason] => do
    let text ← textArgument "" 1 text
    return .unencodable none text (← wholeArgument start) (← wholeArgument stop)
      (← textArgument "" 4 reason)
  | _, _ => .error (miscounted "function" (if encoded then 5 else 4) arguments.length)

/-- The fault of bytes that cannot be read. Its arguments hold no bytes, so that there is none. -/
def undecodableOf : List Value → Fault
  | [encoding, bytes, start, stop, reason] =>
    let checked : Except Fault Unit := do
      let _ ← textArgument "" 1 encoding
      let _ ← wholeArgument start
      let _ ← wholeArgument stop
      let _ ← textArgument "" 5 reason
    match checked with
    | .ok () => misused s!"a bytes-like object is required, not '{bytes.kindName}'"
    | .error fault => fault
  | arguments => miscounted "function" 5 arguments.length

/-- The fault of a group of faults. Its arguments hold no faults, so that there is none. -/
def groupOf : List Value → Fault
  | [message, members] =>
    let call := "BaseExceptionGroup.__new__() "
    match textArgument call 1 message, members with
    | .error fault, _ => fault
    | .ok _, .list [] | .ok _, .text "" =>
      .stated "ValueError" "second argument (exceptions) must be a non-empty sequence"
    | .ok _, .list _ | .ok _, .text _ =>
      .stated "ValueError" "Item 0 of second argument (exceptions) is not an exception"
    | .ok _, _ => misused "second argument (exceptions) must be a sequence"
  | arguments => miscounted "BaseExceptionGroup.__new__()" 2 arguments.length

/-- The fault of a kind with arguments, or the one that the arguments make. -/
def named (kind : String) (arguments : List Value) : Except Fault Fault :=
  match kind with
  | "UnicodeEncodeError" => unencodableOf true arguments
  | "UnicodeTranslateError" => unencodableOf false arguments
  | "UnicodeDecodeError" => .error (undecodableOf arguments)
  | "ExceptionGroup" | "BaseExceptionGroup" => .error (groupOf arguments)
  | "IOError" | "EnvironmentError" => .ok ((system? kind arguments).getD (.raised "OSError" arguments))
  | _ =>
    if (systemKinds.map (·.1)).contains kind then
      .ok ((system? kind arguments).getD (.raised kind arguments))
    else .ok (.raised kind arguments)

end Workflow.Fault
