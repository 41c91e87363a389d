/-!
# The order of texts

Texts are ordered by the codes of their characters, and a text comes before every longer one that
starts with it.
-/

namespace Workflow.Text

/-- The given texts in order; equal texts keep their places. -/
def sorted (texts : List String) : List String :=
  texts.mergeSort fun left right => !(right < left)

end Workflow.Text
