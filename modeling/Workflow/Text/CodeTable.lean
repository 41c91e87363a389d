/-!
# Tables of characters

Characters that are numbered by two bytes. Tables of them are large and have gaps, and are therefore given
as blocks of rows.
-/

namespace Workflow.Text

/-- Rows of characters, one row for each first byte from `lead` on; in a row, one character for each
second byte from `trail` on. A blank is a gap. -/
structure CodeBlock where
  lead : Nat
  trail : Nat
  rows : List String

/-- The character of two bytes in a block. -/
def CodeBlock.char? (block : CodeBlock) (lead trail : Nat) : Option Char := do
  guard (block.lead ≤ lead ∧ block.trail ≤ trail)
  let row ← block.rows[lead - block.lead]?
  (row.toList[trail - block.trail]?).filter (· ≠ ' ')

/-- Characters that are numbered by two bytes. -/
abbrev CodeTable := List CodeBlock

/-- The character of two bytes. -/
def CodeTable.char? (table : CodeTable) (lead trail : Nat) : Option Char :=
  table.findSome? (·.char? lead trail)

/-- The characters of a table. -/
def CodeTable.chars (table : CodeTable) : List Char :=
  ((table.flatMap (·.rows)).flatMap String.toList).filter (· ≠ ' ')

end Workflow.Text
