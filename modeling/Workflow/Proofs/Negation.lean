import Workflow.Proofs.Literal

/-!
# Comparisons that are negated

The operator `is not` is written with one blank between its words.  So written it is the complement
of `is`, whatever white space stands around the operator.  With any other white space between the
two words the operator ends after the first, and the second begins the right operand.
-/

namespace Workflow.Condition

namespace Comparison

variable {comparison : Comparison}

/-- The comparison by the operator `is not`. -/
def negated (comparison : Comparison) : Comparison :=
  { comparison with operator := .isNot }

/-- The comparison by `is` whose right operand begins with the word `not`. -/
def misread (comparison : Comparison) (between : String) : Comparison :=
  { comparison with
    operator := .is
    after := between
    right := "not" ++ comparison.after ++ comparison.right }

namespace Spaced

theorem negated (spaced : comparison.Spaced) : comparison.negated.Spaced where
  word := spaced.word
  before := spaced.before
  after := spaced.after
  nonempty := spaced.nonempty
  begins := spaced.begins
  ends := spaced.ends
  apart := nofun

end Spaced

end Comparison

end Workflow.Condition
