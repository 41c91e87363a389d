import Workflow.Error.Basic
import Workflow.Path
import Workflow.Text.Case

/-!
# Conditions

A condition is one comparison, `<left> <operator> <right>` with white space around the operator, or a
single word: a truth value or a path whose value counts as true or false. Operands are quoted texts,
numbers, keywords, or paths into the data; on the right a path that leads nowhere stands for itself.
-/

namespace Workflow

open Number

/-- A comparison operator. -/
inductive Operator where
  | isNot
  | is
  | notEqual
  | greaterEqual
  | lessEqual
  | equal
  | greater
  | less
  deriving DecidableEq

namespace Operator

/-- All operators, in the order in which they are looked for: one that starts like another comes before
it. -/
def all : List Operator :=
  [.isNot, .is, .notEqual, .greaterEqual, .lessEqual, .equal, .greater, .less]

/-- How an operator is written. -/
def symbol : Operator → String
  | .isNot => "is not"
  | .is => "is"
  | .notEqual => "!="
  | .greaterEqual => ">="
  | .lessEqual => "<="
  | .equal => "="
  | .greater => ">"
  | .less => "<"

/-- The operator that is written so. -/
def ofSymbol? (symbol : String) : Option Operator :=
  all.find? (·.symbol == symbol)

end Operator

namespace Condition

/-- The inside of a text that starts and ends with one kind of quote. -/
def unquote? (cs : List Char) : Option (List Char) :=
  match cs with
  | [] => none
  | quote :: rest =>
    if (quote = '"' || quote = '\'') && rest.getLast? == some quote then some rest.dropLast
    else none

/-- The number that a numeral stands for: whole without a point, floating with one. -/
def numeralValue (numeral : Numeral) : Except IntegerError Scalar :=
  match numeral.fraction with
  | some _ => .ok (.float numeral.toBinary64)
  | none =>
    if digitLimit < numeral.whole.length then .error (.tooLong numeral.whole.length)
    else .ok (.int (signed numeral.negative (digitsValue numeral.whole)))

/-- The values of the words that are not paths. -/
def keywords : List (String × Scalar) :=
  [("true", .bool true), ("yes", .bool true), ("false", .bool false), ("no", .bool false),
    ("null", .null), ("empty", .null)]

/-- What an operand without blanks around it stands for. A path that leads nowhere stands for itself if
`bareWords` holds, and for null otherwise. -/
def operandValue (operand : List Char) (data : Value) (bareWords : Bool) :
    Except IntegerError Value :=
  match unquote? operand with
  | some inner => .ok (.text (String.ofList inner))
  | none =>
    match Numeral.read? operand with
    | some numeral => Value.scalar <$> numeralValue numeral
    | none =>
      let word := String.ofList operand
      match keywords.lookup (Text.lower word) with
      | some keyword => .ok (.scalar keyword)
      | none => do
        match ← Path.get? data word with
        | some value => .ok value
        | none => .ok (if bareWords then .text word else .null)

/-- What an operand stands for. -/
def resolveOperand (operand : String) (data : Value) (bareWords : Bool) :
    Except IntegerError Value :=
  operandValue (Text.trim operand.toList) data bareWords

/-- Whether a value is a number; truth values are not. -/
def isNumber : Value → Bool
  | .int _ => true
  | .float _ => true
  | _ => false

/-- A value as a number, if it is one or is a text that is a numeral. -/
def asNumber? : Value → Except IntegerError (Option Scalar)
  | .int value => .ok (some (.int value))
  | .float value => .ok (some (.float value))
  | .text value =>
    match Numeral.read? (Text.trim value.toList) with
    | some numeral => some <$> numeralValue numeral
    | none => .ok none
  | _ => .ok none

/-- The numbers of two values, if both have one. -/
def bothNumbers? (left right : Value) : Except IntegerError (Option (Scalar × Scalar)) := do
  let left? ← asNumber? left
  let right? ← asNumber? right
  match left?, right? with
  | some left, some right => .ok (some (left, right))
  | _, _ => .ok none

/-- Equality up to the form of numbers: null equals what does not count as true, truth values are
compared by what counts as true, and numerals as numbers. -/
def looselyEqual (left right : Value) : Except IntegerError Bool :=
  match left, right with
  | .null, _ => .ok (!right.truthy)
  | _, .null => .ok (!left.truthy)
  | .bool value, _ => .ok (value == right.truthy)
  | _, .bool value => .ok (left.truthy == value)
  | .text leftText, .text rightText => do
    match ← bothNumbers? left right with
    | some (leftNumber, rightNumber) => .ok (leftNumber.equals rightNumber)
    | none => .ok (leftText == rightText)
  | _, _ =>
    if isNumber left || isNumber right then do
      match ← bothNumbers? left right with
      | some (leftNumber, rightNumber) => .ok (leftNumber.equals rightNumber)
      | none => .ok false
    else .ok (left.equals right)

/-- Equality of values of one kind. -/
def strictlyEqual (left right : Value) : Bool :=
  left.kindName == right.kindName && left.equals right

/-- The order of two numbers; not-a-number has none. -/
def numberOrder? (left right : Scalar) : Option Ordering := do
  let here ← left.position?
  let there ← right.position?
  return here.order there

/-- The order of two texts by the codes of their characters. -/
def textOrder (left right : String) : Ordering :=
  if left < right then .lt else if right < left then .gt else .eq

/-- The order of two values, both numbers or numerals, or both texts. There is none where
not-a-number takes part. -/
def order? (left right : Value) (expression : Value) : Except Failure (Option Ordering) := do
  match (bothNumbers? left right), left, right with
  | .error error, _, _ => .error (.integer error)
  | .ok (some (leftNumber, rightNumber)), _, _ => .ok (numberOrder? leftNumber rightNumber)
  | .ok none, .text leftText, .text rightText => .ok (some (textOrder leftText rightText))
  | .ok none, _, _ => .error (.evaluation (.unordered left right expression))

/-- Applies an operator to two values. -/
def compare (left : Value) (operator : Operator) (right : Value) (expression : Value) :
    Except Failure Bool :=
  let ordered (accepted : List Ordering) : Except Failure Bool := do
    let found ← order? left right expression
    .ok (found.any accepted.contains)
  match operator with
  | .equal => (looselyEqual left right).mapError .integer
  | .notEqual => ((looselyEqual left right).map (! ·)).mapError .integer
  | .is => .ok (strictlyEqual left right)
  | .isNot => .ok (!strictlyEqual left right)
  | .greater => ordered [.gt]
  | .less => ordered [.lt]
  | .greaterEqual => ordered [.gt, .eq]
  | .lessEqual => ordered [.lt, .eq]

/-- Applies an operator that is given as it is written. -/
def compareWith (left : Value) (operator : Value) (right : Value) (expression : Value) :
    Except Failure Bool :=
  match operator.text?.bind Operator.ofSymbol? with
  | some known => compare left known right expression
  | none => .error (.evaluation (.unknownOperator operator expression))

/-- The text after a given start. -/
def after? : List Char → List Char → Option (List Char)
  | [], cs => some cs
  | _ :: _, [] => none
  | expected :: rest, c :: cs => if expected = c then after? rest cs else none

/-- The operator at the front of a text, and the operand after it; white space must stand between
them. -/
def operatorAt? (cs : List Char) : Option (Operator × List Char) :=
  Operator.all.findSome? fun operator => do
    let rest ← after? operator.symbol.toList cs
    guard (rest.head?.any Text.isBlank)
    let right := Text.trimStart rest
    guard (!right.isEmpty)
    return (operator, right)

/-- Splits a comparison at its first operator: the first that has white space on both sides and an
operand before and after it. -/
def split? : List Char → Option (List Char × Operator × List Char)
  | [] => none
  | [_] => none
  | c :: next :: rest =>
    let here := if Text.isBlank next then operatorAt? (Text.trimStart (next :: rest)) else none
    match here with
    | some (operator, right) => some ([c], operator, right)
    | none => (split? (next :: rest)).map fun (left, operator, right) => (c :: left, operator, right)

/-- Whether a character belongs to an operator. -/
def isOperatorChar (c : Char) : Bool :=
  c = '=' || c = '!' || c = '<' || c = '>'

/-- Whether an operand holds operator characters outside quotes. -/
def isStray (operand : List Char) : Bool :=
  let trimmed := Text.trim operand
  (unquote? trimmed).isNone && trimmed.any isOperatorChar

/-- Words that make a condition true. -/
def trueWords : List String := ["true", "1", "yes"]

/-- Words that make a condition false. -/
def falseWords : List String := ["false", "0", "no"]

/-- Whether a text has the form of a path alone: no white space and no operator characters. -/
def isPlainPath (cs : List Char) : Bool :=
  cs.all fun c => !Text.isBlank c && !isOperatorChar c

/-- The truth value of a condition on some data. -/
def evaluateText (expression : String) (data : Value) : Except Failure Bool :=
  let text := Text.trim expression.toList
  let shown := String.ofList text
  if text.isEmpty then .error (.evaluation (.empty expression))
  else match split? text with
    | some (left, operator, right) =>
      if isStray left || isStray right then .error (.evaluation (.malformed shown shown))
      else do
        let leftValue ← (operandValue (Text.trim left) data false).mapError Failure.integer
        let rightValue ← (operandValue (Text.trim right) data true).mapError Failure.integer
        compare leftValue operator rightValue (.text shown)
    | none =>
      let word := Text.lower shown
      if trueWords.contains word then .ok true
      else if falseWords.contains word then .ok false
      else if !isPlainPath text then .error (.evaluation (.malformed shown expression))
      else do
        let found ← (Path.get? data shown).mapError Failure.integer
        .ok (found.any Value.truthy)

/-- The truth value of a condition that may be any value; only texts are conditions. Data that counts
as false is taken to be empty. -/
def evaluate (expression : Value) (data : Value) : Except Failure Bool :=
  match expression with
  | .text expression => evaluateText expression (if data.truthy then data else .dict [])
  | other => .error (.evaluation (.notText other))

/-- The first of some conditions that is false, if there is one; `view` gives the value that is evaluated
for each. -/
def firstFalse? {α : Type} (view : α → Value) (data : Value) : List α → Except Failure (Option α)
  | [] => .ok none
  | condition :: rest => do
    if ← evaluate (view condition) data then firstFalse? view data rest else .ok (some condition)

end Condition

end Workflow
