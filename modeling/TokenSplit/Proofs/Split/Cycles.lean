import TokenSplit.Proofs.Allocation

/-!
# Whole cycles

A cycle is as many tokens as a ratio has parts.  Whole cycles are cut without a remainder, so on
top of a count that reaches the threshold they add their parts to each bucket, to the reads as
well, whatever the count itself leaves over.
-/

namespace TokenSplit

namespace Ratio

/-- Cycles on top of a count are cut into their parts. -/
theorem split_add_cycles (r : Ratio) {count : Nat}
    (hcount : r.threshold ≤ count) (k : Nat) :
    r.split (count + k * r.totalParts) =
      ⟨(r.split count).input + k * r.input,
        (r.split count).creation + k * r.creation,
        (r.split count).read + k * r.read⟩ := by
  have hlater : r.threshold ≤ count + k * r.totalParts :=
    Nat.le_add_right_of_le hcount
  have hfit := r.input_share_add_creation_share_le count
  have hcycles : k * r.totalParts =
      k * r.input + k * r.creation + k * r.read := by
    rw [totalParts, Nat.mul_add, Nat.mul_add]
  rw [r.split_of_le hlater, r.split_of_le hcount, share_add_cycles,
    share_add_cycles, Split.mk.injEq]
  refine ⟨rfl, rfl, ?_⟩
  dsimp only
  omega

/-- From the threshold on, whole cycles more of a count are exactly their parts more of each
bucket. -/
theorem allocate_add_cycles (r : Ratio) {count : Nat}
    (hcount : r.threshold ≤ count) (k : Nat) :
    ∃ s : Split,
      (r.allocate (.count count)).result = .ok s ∧
      (r.allocate (.count (count + k * r.totalParts))).result =
        .ok ⟨s.input + k * r.input, s.creation + k * r.creation,
          s.read + k * r.read⟩ := by
  refine ⟨r.split count, r.result_allocate_count count, ?_⟩
  rw [r.result_allocate_count, r.split_add_cycles hcount]

/-- Ten cycles on top of a count that leaves a remainder. -/
theorem allocate_add_cycles_ten :
    Ratio.standard.threshold ≤ 101 ∧
      (Ratio.standard.allocate (.count 101)).result = .ok ⟨3, 7, 91⟩ ∧
      (Ratio.standard.allocate (.count (101 + 10 * 28))).result =
        .ok ⟨3 + 10 * 1, 7 + 10 * 2, 91 + 10 * 25⟩ := by
  have hcount : Ratio.standard.threshold ≤ 101 := by decide
  obtain ⟨s, hs, hlater⟩ := allocate_add_cycles Ratio.standard hcount 10
  have hsplit : s = ⟨3, 7, 91⟩ := (Except.ok.inj hs).symm
  subst hsplit
  exact ⟨hcount, hs, hlater⟩

end Ratio

end TokenSplit
