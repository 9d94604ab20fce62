import TokenSplit.Proofs.Allocation

/-!
# Ratios that split alike

Two ratios split every count alike just where their parts are in the same proportions and they
begin to split at the same count.  Where all parts are input, nothing is ever split, so it does
not matter where it would begin; and no tokens at all are split like plain input, so a threshold
of one is none.
-/

namespace TokenSplit

namespace Ratio

variable (r r₁ r₂ : Ratio)

/-! ## Where a ratio begins to split -/

theorem split_zero : r.split 0 = Split.plain 0 := by
  by_cases hthreshold : 0 < r.threshold
  · exact r.split_of_lt hthreshold
  · rw [r.split_of_le (Nat.not_lt.mp hthreshold)]
    simp [share, Split.plain]

theorem split_of_lt_max {count : Nat} (hcount : count < max r.threshold 1) :
    r.split count = Split.plain count := by
  by_cases hthreshold : count < r.threshold
  · exact r.split_of_lt hthreshold
  · have hzero : count = 0 := by omega
    rw [hzero, r.split_zero]

/-- All parts of a ratio are input. -/
def AllInput : Prop :=
  r.creation = 0 ∧ r.read = 0

theorem allInput_iff : r.AllInput ↔ r.input = r.totalParts := by
  simp only [AllInput, totalParts]
  omega

theorem split_of_allInput (hall : r.AllInput) (count : Nat) :
    r.split count = Split.plain count := by
  by_cases hcount : count < r.threshold
  · exact r.split_of_lt hcount
  · have hinput : r.share r.input count = count := by
      rw [r.allInput_iff.mp hall, r.share_totalParts]
    have hcreation : r.share r.creation count = 0 := by
      simp [share, hall.1]
    rw [r.split_of_le (Nat.not_lt.mp hcount), hinput, hcreation]
    simp [Split.plain]

/-- A ratio with a cache part never takes all of a count for input. -/
theorem share_input_lt (hcache : ¬r.AllInput) {count : Nat}
    (hcount : 0 < count) : r.share r.input count < count := by
  have hparts : r.input < r.totalParts := by
    have hle := r.input_le_totalParts
    have hne : r.input ≠ r.totalParts := fun h => hcache (r.allInput_iff.mpr h)
    omega
  apply Nat.div_lt_of_lt_mul
  rw [Nat.mul_comm]
  exact Nat.mul_lt_mul_of_pos_right hparts hcount

/-! ## Parts in the same proportions -/

/-- The parts of two ratios are in the same proportions. -/
def Proportional : Prop :=
  r₁.input * r₂.totalParts = r₂.input * r₁.totalParts ∧
    r₁.creation * r₂.totalParts = r₂.creation * r₁.totalParts

variable {r₁ r₂}

theorem Proportional.symm (h : Proportional r₁ r₂) : Proportional r₂ r₁ :=
  ⟨h.1.symm, h.2.symm⟩

theorem Proportional.read (h : Proportional r₁ r₂) :
    r₁.read * r₂.totalParts = r₂.read * r₁.totalParts := by
  obtain ⟨hinput, hcreation⟩ := h
  have hsums : (r₁.input + r₁.creation + r₁.read) * r₂.totalParts =
      (r₂.input + r₂.creation + r₂.read) * r₁.totalParts :=
    Nat.mul_comm r₁.totalParts r₂.totalParts
  simp only [Nat.add_mul] at hsums
  omega

/-- Proportions are the same just where both ratios have a multiple in common. -/
theorem proportional_iff_multiples :
    Proportional r₁ r₂ ↔
      ∃ k₁ k₂, 0 < k₁ ∧ 0 < k₂ ∧
        k₁ * r₁.input = k₂ * r₂.input ∧
        k₁ * r₁.creation = k₂ * r₂.creation ∧
        k₁ * r₁.read = k₂ * r₂.read := by
  constructor
  · intro h
    refine ⟨r₂.totalParts, r₁.totalParts, r₂.totalParts_pos,
      r₁.totalParts_pos, ?_, ?_, ?_⟩
    · rw [Nat.mul_comm, h.1, Nat.mul_comm]
    · rw [Nat.mul_comm, h.2, Nat.mul_comm]
    · rw [Nat.mul_comm, h.read, Nat.mul_comm]
  · rintro ⟨k₁, k₂, hk₁, hk₂, hinput, hcreation, hread⟩
    have htotal : k₁ * r₁.totalParts = k₂ * r₂.totalParts := by
      simp only [totalParts, Nat.mul_add, hinput, hcreation, hread]
    have hcross {part₁ part₂ : Nat} (hpart : k₁ * part₁ = k₂ * part₂) :
        part₁ * r₂.totalParts = part₂ * r₁.totalParts := by
      apply Nat.eq_of_mul_eq_mul_left (Nat.mul_pos hk₁ hk₂)
      calc
        k₁ * k₂ * (part₁ * r₂.totalParts) =
            k₁ * part₁ * (k₂ * r₂.totalParts) :=
          Nat.mul_mul_mul_comm k₁ k₂ part₁ r₂.totalParts
        _ = k₂ * part₂ * (k₁ * r₁.totalParts) := by rw [hpart, htotal]
        _ = k₂ * k₁ * (part₂ * r₁.totalParts) :=
          Nat.mul_mul_mul_comm k₂ part₂ k₁ r₁.totalParts
        _ = k₁ * k₂ * (part₂ * r₁.totalParts) := by
          rw [Nat.mul_comm k₂ k₁]
    exact ⟨hcross hinput, hcross hcreation⟩

theorem share_eq_share {part₁ part₂ : Nat}
    (hpart : part₁ * r₂.totalParts = part₂ * r₁.totalParts) (count : Nat) :
    r₁.share part₁ count = r₂.share part₂ count := by
  have hexact : count * part₁ * r₂.totalParts =
      count * part₂ * r₁.totalParts := by
    rw [Nat.mul_assoc, hpart, Nat.mul_assoc]
  exact Nat.le_antisymm (share_le_share (Nat.le_of_eq hexact))
    (share_le_share (Nat.le_of_eq hexact.symm))

/-- Whole cycles are shared exactly. -/
theorem share_mul_totalParts (r : Ratio) (part n : Nat) :
    r.share part (n * r.totalParts) = n * part := by
  have hnone : r.share part 0 = 0 := by
    simp [share]
  rw [← Nat.zero_add (n * r.totalParts), share_add_cycles, hnone,
    Nat.zero_add]

theorem Proportional.allInput (h : Proportional r₁ r₂) (hall : r₁.AllInput) :
    r₂.AllInput := by
  have hinput := h.1
  rw [r₁.allInput_iff.mp hall, Nat.mul_comm] at hinput
  have hparts := Nat.eq_of_mul_eq_mul_right r₁.totalParts_pos hinput
  exact r₂.allInput_iff.mpr hparts.symm

/-! ## Splitting alike -/

variable (r₁ r₂) in
/-- Two ratios split every count into the same buckets. -/
def SplitsAlike : Prop :=
  ∀ count, r₁.split count = r₂.split count

theorem SplitsAlike.symm (h : SplitsAlike r₁ r₂) : SplitsAlike r₂ r₁ :=
  fun count => (h count).symm

/-- Whole cycles of both ratios beyond both thresholds show the proportions. -/
theorem SplitsAlike.proportional (h : SplitsAlike r₁ r₂) :
    Proportional r₁ r₂ := by
  let n := r₁.threshold + r₂.threshold + 1
  let count := n * r₂.totalParts * r₁.totalParts
  have hcount : n ≤ count := by
    calc
      n ≤ n * r₂.totalParts := Nat.le_mul_of_pos_right n r₂.totalParts_pos
      _ ≤ count := Nat.le_mul_of_pos_right _ r₁.totalParts_pos
  have hcount₁ : r₁.threshold ≤ count := by omega
  have hcount₂ : r₂.threshold ≤ count := by omega
  have hsplit := h count
  rw [r₁.split_of_le hcount₁, r₂.split_of_le hcount₂] at hsplit
  simp only [Split.mk.injEq] at hsplit
  have hn : 0 < n := by omega
  have hpart {part₁ part₂ : Nat}
      (hshares : r₁.share part₁ count = r₂.share part₂ count) :
      part₁ * r₂.totalParts = part₂ * r₁.totalParts := by
    have hswap : count = n * r₁.totalParts * r₂.totalParts :=
      Nat.mul_right_comm n r₂.totalParts r₁.totalParts
    have hshare₁ : r₁.share part₁ count = n * r₂.totalParts * part₁ :=
      r₁.share_mul_totalParts part₁ (n * r₂.totalParts)
    have hshare₂ : r₂.share part₂ count = n * r₁.totalParts * part₂ := by
      rw [hswap]
      exact r₂.share_mul_totalParts part₂ (n * r₁.totalParts)
    rw [hshare₁, hshare₂, Nat.mul_assoc, Nat.mul_assoc] at hshares
    have hcross := Nat.eq_of_mul_eq_mul_left hn hshares
    rw [Nat.mul_comm part₁, hcross, Nat.mul_comm]
  exact ⟨hpart hsplit.1, hpart hsplit.2.1⟩

/-- A ratio with a cache part takes tokens away from the input as soon as it begins to split, so
no ratio that splits alike begins later. -/
theorem SplitsAlike.max_threshold_le (h : SplitsAlike r₁ r₂)
    (hcache : ¬r₁.AllInput) :
    max r₂.threshold 1 ≤ max r₁.threshold 1 := by
  apply Nat.le_of_not_lt
  intro hlater
  let first := max r₁.threshold 1
  have hpos : 0 < first := by omega
  have hfirst : r₁.threshold ≤ first := Nat.le_max_left _ _
  have hsplit := h first
  rw [r₁.split_of_le hfirst, r₂.split_of_lt_max hlater] at hsplit
  have hinput : r₁.share r₁.input first = first := congrArg Split.input hsplit
  have hlt := r₁.share_input_lt hcache hpos
  omega

theorem splitsAlike_iff :
    SplitsAlike r₁ r₂ ↔
      Proportional r₁ r₂ ∧
        (r₁.AllInput ∨ max r₁.threshold 1 = max r₂.threshold 1) := by
  constructor
  · intro h
    refine ⟨h.proportional, ?_⟩
    by_cases hall : r₁.AllInput
    · exact .inl hall
    · have hall₂ : ¬r₂.AllInput := fun hall₂ =>
        hall (h.proportional.symm.allInput hall₂)
      exact .inr (Nat.le_antisymm (h.symm.max_threshold_le hall₂)
        (h.max_threshold_le hall))
  · rintro ⟨hparts, hall | hthreshold⟩ count
    · rw [r₁.split_of_allInput hall,
        r₂.split_of_allInput (hparts.allInput hall)]
    · by_cases hcount : count < max r₁.threshold 1
      · rw [r₁.split_of_lt_max hcount,
          r₂.split_of_lt_max (hthreshold ▸ hcount)]
      · have hcount₁ : r₁.threshold ≤ count := by omega
        have hcount₂ : r₂.threshold ≤ count := by omega
        rw [r₁.split_of_le hcount₁, r₂.split_of_le hcount₂,
          share_eq_share hparts.1, share_eq_share hparts.2]

theorem splitsAlike_iff_allocate :
    SplitsAlike r₁ r₂ ↔
      ∀ count : Nat,
        (r₁.allocate (.count count)).result =
          (r₂.allocate (.count count)).result := by
  simp only [SplitsAlike, result_allocate_count, Except.ok.injEq]

/-- Two ratios give the same result for every count just where their parts are in the same
proportions and, unless all parts are input, they begin to split at the same count above zero.
In other words: multiplying all parts changes nothing, a threshold of one is none, and but for
the threshold of a ratio that is all input every other difference shows. -/
theorem allocate_eq_iff (r₁ r₂ : Ratio) :
    ((∀ count : Nat,
      (r₁.allocate (.count count)).result =
        (r₂.allocate (.count count)).result) ↔
      r₁.input * r₂.totalParts = r₂.input * r₁.totalParts ∧
        r₁.creation * r₂.totalParts = r₂.creation * r₁.totalParts ∧
          ((r₁.creation = 0 ∧ r₁.read = 0) ∨
            max r₁.threshold 1 = max r₂.threshold 1)) ∧
    ((∀ count : Nat,
      (r₁.allocate (.count count)).result =
        (r₂.allocate (.count count)).result) ↔
      (∃ k₁ k₂, 0 < k₁ ∧ 0 < k₂ ∧
        k₁ * r₁.input = k₂ * r₂.input ∧
        k₁ * r₁.creation = k₂ * r₂.creation ∧
        k₁ * r₁.read = k₂ * r₂.read) ∧
      ((r₁.creation = 0 ∧ r₁.read = 0) ∨ r₁.threshold = r₂.threshold ∨
        (r₁.threshold ≤ 1 ∧ r₂.threshold ≤ 1))) := by
  have hthreshold : max r₁.threshold 1 = max r₂.threshold 1 ↔
      r₁.threshold = r₂.threshold ∨
        (r₁.threshold ≤ 1 ∧ r₂.threshold ≤ 1) := by
    omega
  rw [← splitsAlike_iff_allocate, splitsAlike_iff]
  constructor
  · simp only [Proportional, AllInput, and_assoc]
  · rw [proportional_iff_multiples, hthreshold, AllInput]

end Ratio

end TokenSplit
