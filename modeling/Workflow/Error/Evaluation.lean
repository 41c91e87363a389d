import Workflow.Value.Display

/-!
# Errors in conditions

Why a condition has no truth value. The message tells what is wrong; the context repeats the expression
and, for an order that does not exist, both operands.
-/

namespace Workflow

/-- Why a condition is not evaluated. -/
inductive EvaluationError where
  /-- The condition is not a text. -/
  | notText (expression : Value)
  /-- The condition is blank. -/
  | empty (expression : String)
  /-- The condition has no form that is known; `text` is it without blanks around it. -/
  | malformed (text expression : String)
  /-- The operands have no order. -/
  | unordered (left right expression : Value)
  | unknownOperator (operator expression : Value)
  /-- An instance stands at a step that its workflow does not have. -/
  | unknownStep (step workflow : String)
  /-- Anything else, told in words. -/
  | stated (message : String) (expression : Value) (details : Dict)
  deriving DecidableEq

namespace EvaluationError

/-- The message for an error. -/
def message : EvaluationError → String
  | .notText expression => s!"Condition must be a string, got {expression.kindName}"
  | .empty _ => "Condition expression is empty"
  | .malformed text _ => s!"Unsupported operator or malformed condition: {text}"
  | .unordered left right expression =>
    s!"Cannot order {left.kindName} and {right.kindName} in expression '{expression.plain}'"
  | .unknownOperator operator _ => s!"Unsupported operator: {operator.plain}"
  | .unknownStep step workflow =>
    s!"Current step '{step}' is not part of workflow '{workflow}'"
  | .stated message _ _ => message

/-- The expression that was not evaluated. -/
def expression : EvaluationError → Value
  | .notText expression => expression
  | .empty expression => .text expression
  | .malformed _ expression => .text expression
  | .unordered _ _ expression => expression
  | .unknownOperator _ expression => expression
  | .unknownStep step _ => .text step
  | .stated _ expression _ => expression

/-- What is told about an error. -/
def context (error : EvaluationError) : Dict :=
  let details := match error with
    | .unordered left right _ => Dict.ofFields [("left", left), ("right", right)]
    | .unknownOperator operator _ => Dict.ofFields [("operator", operator)]
    | .stated _ _ details => details
    | _ => []
  Dict.overlay (Dict.ofFields [("expression", error.expression)]) details

/-- What to do about an error. -/
def suggestions : List String :=
  ["Use \"<left> <operator> <right>\" with whitespace around the operator",
    "Supported operators: =, !=, >, <, >=, <=, is, is not",
    "Ordering operators need two numbers or two strings"]

end EvaluationError

end Workflow
