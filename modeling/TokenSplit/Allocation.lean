import TokenSplit.Logged
import TokenSplit.Usage

/-!
# Allocation

Splitting what a caller gives as a token count.  A count is recorded once it is known to be one;
a value that is none leaves no record.  Nothing checks beforehand that what is given as a ratio is
one.
-/

namespace TokenSplit

namespace Ratio

/-- What is recorded about a count. -/
def event (r : Ratio) (count : Nat) : Event :=
  if count < r.threshold then
    .belowThreshold count r.threshold
  else
    .allocated count (r.split count)

/-- Splits a value that stands for a token count. -/
def allocate (r : Ratio) (total : Value) : Logged Split := do
  let count ← total.tokens
  Logged.note (r.event count)
  return r.split count

/-- Splits a value that stands for a token count and reports the usage. -/
def report (r : Ratio) (total output omitEmpty : Value) : Logged Usage := do
  let split ← r.allocate total
  split.breakdown.usage output omitEmpty

end Ratio

/-- Splits a value by what stands where a ratio is expected; of what is no ratio, the kind is given.
It is asked for its threshold like any other, which is once the count is known to be one. -/
def allocateBy (basis : Except Kind Ratio) (total : Value) : Logged Split :=
  match basis with
  | .ok r => r.allocate total
  | .error kind => do
    let _ ← total.tokens
    throw (Fault.noAttribute kind Ratio.Field.threshold.name)

/-- Splits a value by what stands where a ratio is expected, and reports the usage. -/
def reportBy (basis : Except Kind Ratio) (total output omitEmpty : Value) : Logged Usage := do
  let split ← allocateBy basis total
  split.breakdown.usage output omitEmpty

end TokenSplit
