import TokenSplit.Allocation
import TokenSplit.Proofs.Result
import TokenSplit.Proofs.Split

/-!
# Allocating counts

What allocating and reporting come to for a value, said by the token count that the value stands
for.  An integer of zero or more is always split, and by nothing but the rule of floored shares.
-/

namespace TokenSplit

namespace Value

theorem tokens_int_of_neg {n : Int} (hn : n < 0) :
    (Value.int n).tokens = .error .totalNegative := by
  simp only [tokens, asIndex, bind, Except.bind, hn, if_true]
  rfl

theorem tokens_int_of_nonneg {n : Int} (hn : 0 ≤ n) :
    (Value.int n).tokens = .ok n.toNat := by
  simp only [tokens, asIndex, bind, Except.bind, Int.not_lt.mpr hn, if_false]
  rfl

@[simp] theorem tokens_count (n : Nat) : (Value.count n).tokens = .ok n := by
  rw [tokens_int_of_nonneg (Int.natCast_nonneg n), Int.toNat_natCast]

end Value

namespace Split

/-- The buckets of a split add up to its count as values, too. -/
@[simp] theorem total_breakdown (s : Split) :
    s.breakdown.total = .ok (.count s.total) := by
  simp only [breakdown, Breakdown.total, Value.add, bind, Except.bind, total]
  norm_cast

end Split

namespace Ratio

theorem level_event (r : Ratio) (count : Nat) :
    (r.event count).level = .debug := by
  unfold event
  split <;> rfl

/-- A value that stands for a token count is split, and one event is recorded. -/
theorem allocate_of_tokens (r : Ratio) {total : Value} {count : Nat}
    (htotal : total.tokens = .ok count) :
    r.allocate total = ⟨.ok (r.split count), [r.event count]⟩ := by
  unfold allocate
  rw [htotal]
  rfl

theorem result_allocate_count (r : Ratio) (count : Nat) :
    (r.allocate (.count count)).result = .ok (r.split count) := by
  rw [r.allocate_of_tokens (Value.tokens_count count)]

/-- A value that stands for no token count is refused, and nothing is recorded. -/
theorem allocate_of_fault (r : Ratio) {total : Value} {fault : Fault}
    (htotal : total.tokens = .error fault) :
    r.allocate total = ⟨.error fault, []⟩ := by
  unfold allocate
  rw [htotal]
  rfl

/-- The usage that is reported is that of the split. -/
theorem report_of_tokens (r : Ratio) {total : Value} {count : Nat}
    (htotal : total.tokens = .ok count) (output omitEmpty : Value) :
    (r.report total output omitEmpty).result =
      (r.split count).breakdown.usage output omitEmpty := by
  unfold report
  rw [r.allocate_of_tokens htotal]
  rfl

/-- The count is looked at first, so its fault is the fault of the report. -/
theorem report_eq_of_fault (r : Ratio) {total : Value} {fault : Fault}
    (htotal : total.tokens = .error fault) (output omitEmpty : Value) :
    r.report total output omitEmpty = ⟨.error fault, []⟩ := by
  unfold report
  rw [r.allocate_of_fault htotal]
  rfl

theorem report_of_fault (r : Ratio) {total : Value} {fault : Fault}
    (htotal : total.tokens = .error fault) (output omitEmpty : Value) :
    (r.report total output omitEmpty).result = .error fault := by
  rw [r.report_eq_of_fault htotal]

/-- Every count is split without a fault.  The buckets add up to the count; below the threshold
all of it is plain input, and from there on the split is the only way to floor the shares of
input and creation and to give the rest to reads. -/
theorem allocate_count (r : Ratio) (count : Nat) :
    0 < r.totalParts ∧
      ∃ s : Split,
        (r.allocate (.count count)).result = .ok s ∧
        s.breakdown.total = .ok (.count count) ∧
        (count < r.threshold → s = ⟨count, 0, 0⟩) ∧
        (r.threshold ≤ count →
          ∀ input creation read : Int,
            r.IsCut count input creation read ↔
              input = s.input ∧ creation = s.creation ∧ read = s.read) := by
  refine ⟨r.totalParts_pos, r.split count, ?_, ?_, ?_, ?_⟩
  · rw [r.allocate_of_tokens (Value.tokens_count count)]
  · rw [Split.total_breakdown, r.total_split]
  · intro hcount
    exact r.split_of_lt hcount
  · intro hcount input creation read
    exact r.isCut_iff hcount input creation read

end Ratio

end TokenSplit
