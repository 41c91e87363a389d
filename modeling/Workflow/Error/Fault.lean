import Workflow.Json.Reader
import Workflow.Json.Writer

/-!
# Faults

A fault is a failure that no rule of workflows describes: a number that cannot be read, a value of the
wrong kind, a broken document, or whatever an action raised. A fault has a kind, under which failed
steps record it, and a text.
-/

namespace Workflow

open Number Time

/-- A failure outside the rules of workflows. -/
inductive Fault where
  /-- A text was to be read as a whole number. -/
  | integer (error : IntegerError)
  /-- A text was to be read as a timeout. -/
  | timeoutForm (timeout : String)
  /-- A whole number lies beyond the largest floating-point number. -/
  | tooLargeForFloat
  /-- A power lies beyond the largest floating-point number. -/
  | powerTooLarge
  /-- Nought was to be raised to a negative power. -/
  | zeroToNegativePower
  /-- A value has no JSON form. -/
  | unwritable (error : Json.WriteError)
  /-- A stored document is not JSON. -/
  | document (error : Json.ReadError)
  /-- Bytes are not the text that they were taken for. -/
  | undecodable
  /-- A configuration document is not YAML. -/
  | malformedYaml
  /-- Timestamps were compared or moved that cannot be. -/
  | time (error : TimeError)
  /-- A record lacks a field. -/
  | missingField (name : String)
  /-- A record names no state. -/
  | notAState (value : Value)
  /-- A value of the given kind has no such member. -/
  | lacksMember (kind member : String)
  /-- Settings of the given kind are no mapping. -/
  | notAMapping (kind : String)
  /-- A value of the given kind cannot be taken apart. -/
  | notIterable (kind : String)
  /-- An item at a place of a list is no pair of a key and a value. -/
  | notAPair (index length : Nat)
  /-- An item at a place of a list cannot be taken apart into a key and a value. -/
  | notAnEntry (index : Nat)
  /-- A number passed to the store is too large for it. -/
  | tooLargeForStore
  /-- The store cannot be opened. -/
  | storeUnavailable
  /-- A definition without steps has no entry. -/
  | noEntryStep
  /-- An operating-system call failed with a code and a reason. More may be told, such as the file. -/
  | system (kind : String) (code reason : Value) (more : List Value)
  /-- A part of a text cannot be written in an encoding, or has no other form at all. -/
  | unencodable (encoding : Option String) (text : String) (start stop : Int) (reason : String)
  /-- Anything else, with its kind and arguments. -/
  | raised (kind : String) (arguments : List Value)
  deriving DecidableEq

namespace Fault

/-- A fault with one text. -/
def stated (kind text : String) : Fault :=
  .raised kind [.text text]

/-- The fault of a name that is a value of a kind that cannot be looked up. -/
def unhashable (kind : String) : Fault :=
  .stated "TypeError" s!"unhashable type: {Text.quoted kind}"

/-- The fault of a whole number that is to be shown and has too many digits. -/
def unshown : Fault :=
  .stated "ValueError" <| s!"Exceeds the limit ({digitLimit} digits) for integer string conversion; " ++
    "use sys.set_int_max_str_digits() to increase the limit"

/-- The text of digits in some base that are not read; a long text is shown in part. -/
def literalText (base : Nat) (text : String) : String :=
  s!"invalid literal for int() with base {base}: " ++
    String.ofList ((Text.quoted text).toList.take 200)

/-- The text of a whole number that is not read. -/
def integerText : IntegerError → String
  | .malformed text => literalText 10 text
  | .tooLong digits =>
    s!"Exceeds the limit ({digitLimit} digits) for integer string conversion: value has {digits} " ++
      "digits; use sys.set_int_max_str_digits() to increase the limit"

/-- The text of a document that is not read, with the place where reading stopped. -/
def documentText : Json.ReadError → String
  | .malformed reason place =>
    s!"{reason.message}: line {place.line} column {place.column} (char {place.index})"
  | .integerTooLong digits => integerText (.tooLong digits)

/-- The text of a value that is not written. -/
def unwritableText : Json.WriteError → String
  | .value kind => s!"Object of type {kind} is not JSON serializable"
  | .key kind => s!"keys must be str, int, float, bool or None, not {kind}"
  | .loop => "Circular reference detected"

/-- The text of timestamps that do not go together. -/
def timeText : TimeError → String
  | .mixedComparison => "can't compare offset-naive and offset-aware datetimes"
  | .outOfCalendar => "date value out of range"

/-- The files that a failed call of the operating system was about: none, one, or one and what was to
become of it. What a call that would have to wait tells may be a number, which is no file. -/
def systemFiles (kind : String) : List Value → List Value
  | [] => []
  | file :: more =>
    let isNumber := match file with
      | .bool _ | .int _ | .float _ => true
      | _ => false
    if file = .null || (kind = "BlockingIOError" && isNumber) then []
    else file :: ((more.drop 1).filter (· ≠ .null))

/-- The text of characters that cannot be written. -/
def unencodableText (encoding : Option String) (text : String) (start stop : Int) (reason : String) :
    String :=
  let escaped (c : Char) : String :=
    String.ofList (if c.toNat < 0x100 then '\\' :: 'x' :: Text.hex 2 c.toNat
      else if c.toNat < 0x10000 then '\\' :: 'u' :: Text.hex 4 c.toNat
      else '\\' :: 'U' :: Text.hex 8 c.toNat)
  let place := match text.toList[start.toNat]? with
    | some c =>
      if stop = start + 1 then s!"character '{escaped c}' in position {start}"
      else s!"characters in position {start}-{stop - 1}"
    | none => s!"characters in position {start}-{stop - 1}"
  match encoding with
  | some encoding => s!"'{encoding}' codec can't encode {place}: {reason}"
  | none => s!"can't translate {place}: {reason}"

/-- The name of the kind of a fault. -/
def kind : Fault → String
  | .integer _ => "ValueError"
  | .timeoutForm _ => "ValueError"
  | .tooLargeForFloat => "OverflowError"
  | .powerTooLarge => "OverflowError"
  | .zeroToNegativePower => "ZeroDivisionError"
  | .unwritable .loop => "ValueError"
  | .unwritable _ => "TypeError"
  | .document (.malformed _ _) => "JSONDecodeError"
  | .document (.integerTooLong _) => "ValueError"
  | .undecodable => "UnicodeDecodeError"
  | .malformedYaml => "YAMLError"
  | .time .mixedComparison => "TypeError"
  | .time .outOfCalendar => "OverflowError"
  | .missingField _ => "KeyError"
  | .notAState _ => "ValueError"
  | .lacksMember _ _ => "AttributeError"
  | .notAMapping _ => "TypeError"
  | .notIterable _ => "TypeError"
  | .notAPair _ _ => "ValueError"
  | .notAnEntry _ => "TypeError"
  | .tooLargeForStore => "OverflowError"
  | .storeUnavailable => "OperationalError"
  | .noEntryStep => "StopIteration"
  | .system kind _ _ _ => kind
  | .unencodable (some _) _ _ _ _ => "UnicodeEncodeError"
  | .unencodable none _ _ _ _ => "UnicodeTranslateError"
  | .raised kind _ => kind

/-- What a fault was raised with. -/
def arguments : Fault → List Value
  | .integer error => [.text (integerText error)]
  | .timeoutForm timeout => [.text s!"Invalid timeout format: {Text.quoted timeout}"]
  | .tooLargeForFloat => [.text "int too large to convert to float"]
  | .powerTooLarge => [.int 34, .text "Numerical result out of range"]
  | .zeroToNegativePower => [.text "0.0 cannot be raised to a negative power"]
  | .unwritable error => [.text (unwritableText error)]
  | .document error => [.text (documentText error)]
  | .undecodable => []
  | .malformedYaml => []
  | .time error => [.text (timeText error)]
  | .missingField name => [.text name]
  | .notAState value => [.text s!"{value.display} is not a valid WorkflowState"]
  | .lacksMember kind member =>
    [.text s!"{Text.quoted kind} object has no attribute {Text.quoted member}"]
  | .notAMapping kind => [.text s!"settings must be a mapping, not {kind}"]
  | .notIterable kind => [.text s!"{Text.quoted kind} object is not iterable"]
  | .notAPair index length =>
    [.text s!"dictionary update sequence element #{index} has length {length}; 2 is required"]
  | .notAnEntry index =>
    [.text s!"cannot convert dictionary update sequence element #{index} to a sequence"]
  | .tooLargeForStore => [.text "whole number too large for the store"]
  | .storeUnavailable => [.text "unable to open database file"]
  | .noEntryStep => []
  | .system kind code reason more =>
    code :: reason :: (if (systemFiles kind more).isEmpty then more else [])
  | .unencodable encoding text start stop reason =>
    encoding.toList.map Value.text ++ [.text text, .int start, .int stop, .text reason]
  | .raised _ arguments => arguments

/-- Kinds of faults that show only their first argument. -/
def briefKinds : List String := ["SyntaxError", "IndentationError", "TabError"]

/-- The text of a fault: that of its only argument, or of all of them together. A missing key is shown
as a key. -/
def text : Fault → String
  | .system kind code reason more =>
    let files := systemFiles kind more
    s!"[Errno {code.plain}] {reason.plain}" ++
      (if files.isEmpty then "" else ": " ++ joined " -> " (files.map Value.display))
  | .unencodable encoding text start stop reason => unencodableText encoding text start stop reason
  | fault =>
    if briefKinds.contains fault.kind then (fault.arguments.headD .null).plain
    else match fault.arguments with
      | [] => ""
      | [single] => if fault.kind = "KeyError" then single.display else single.plain
      | arguments => displayGroup arguments

/-- A fault as it comes out of work that was waited for. One that only tells of an end is taken for a
mistake there. -/
def awaited (fault : Fault) : Fault :=
  if fault.kind = "StopIteration" then .stated "RuntimeError" "coroutine raised StopIteration"
  else fault

/-- A fault as it is shown: its kind and arguments. -/
def display (fault : Fault) : String :=
  match fault.arguments with
  | [single] => s!"{fault.kind}({single.display})"
  | arguments => fault.kind ++ displayGroup arguments

end Fault

end Workflow
