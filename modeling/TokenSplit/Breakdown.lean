import TokenSplit.Split
import TokenSplit.Value.Arithmetic

/-!
# Breakdowns

Three buckets of tokens as a caller gives them.  Nothing is checked when a breakdown is made; what
its values are shows when they are added up or compared.
-/

namespace TokenSplit

/-- Three buckets that may hold any values. -/
structure Breakdown where
  input : Value
  creation : Value := .count 0
  read : Value := .count 0

namespace Breakdown

/-- The sum of the buckets, from left to right. -/
def total (b : Breakdown) : Except Fault Value := do
  (← b.input.add b.creation).add b.read

/-- Whether some token is in a cache bucket; the second is only asked if the first has none. -/
def hasCache (b : Breakdown) : Except Fault Bool := do
  if ← b.creation.isPositive then
    return true
  b.read.isPositive

end Breakdown

/-- The buckets of a split. -/
def Split.breakdown (s : Split) : Breakdown where
  input := .count s.input
  creation := .count s.creation
  read := .count s.read

end TokenSplit
