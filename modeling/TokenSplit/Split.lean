import TokenSplit.Ratio

/-!
# Splits

A split is a token count cut into plain input, cache creation and cache reads.  A ratio splits a
count by flooring the first two shares and giving the rest to cache reads; below its threshold
all tokens stay plain input.
-/

namespace TokenSplit

/-- A token count in three buckets. -/
structure Split where
  input : Nat
  creation : Nat
  read : Nat
deriving DecidableEq, Repr

namespace Split

/-- The count that was split. -/
def total (s : Split) : Nat :=
  s.input + s.creation + s.read

/-- Some token is in one of the two cache buckets. -/
def HasCache (s : Split) : Prop :=
  0 < s.creation ∨ 0 < s.read

instance (s : Split) : Decidable s.HasCache :=
  inferInstanceAs (Decidable (_ ∨ _))

/-- All tokens as plain input. -/
def plain (count : Nat) : Split :=
  ⟨count, 0, 0⟩

end Split

namespace Ratio

/-- The floored share of a count that belongs to some of the parts. -/
def share (r : Ratio) (part count : Nat) : Nat :=
  count * part / r.totalParts

/-- Cuts a count into three buckets; what flooring leaves over is read from the cache. -/
def split (r : Ratio) (count : Nat) : Split :=
  if count < r.threshold then
    Split.plain count
  else
    let input := r.share r.input count
    let creation := r.share r.creation count
    ⟨input, creation, count - input - creation⟩

end Ratio

end TokenSplit
