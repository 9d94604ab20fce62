import TokenSplit.Split

/-!
# The arithmetic of splits

A share is the one integer whose multiple of the parts is below the exact share by less than one
cycle.  The two floored shares of a count fit into it together, so the truncated subtraction that
gives the reads loses nothing and the three buckets add up to the count.
-/

namespace TokenSplit

namespace Ratio

/-- `tokens` is the share of `part` parts in a count, rounded down. -/
def IsShare (r : Ratio) (part count tokens : Int) : Prop :=
  tokens * r.totalParts ≤ count * part ∧ count * part < (tokens + 1) * r.totalParts

/-- The three numbers add up to the count, and the first two are floored shares. -/
structure IsCut (r : Ratio) (count input creation read : Int) : Prop where
  total : input + creation + read = count
  input_share : r.IsShare r.input count input
  creation_share : r.IsShare r.creation count creation

theorem input_le_totalParts (r : Ratio) : r.input ≤ r.totalParts := by
  simp only [totalParts]
  omega

theorem creation_le_totalParts (r : Ratio) : r.creation ≤ r.totalParts := by
  simp only [totalParts]
  omega

/-- There is exactly one floored share. -/
theorem isShare_iff (r : Ratio) (part count : Nat) (tokens : Int) :
    r.IsShare part count tokens ↔ tokens = r.share part count := by
  have hparts : (0 : Int) < r.totalParts := by
    exact_mod_cast r.totalParts_pos
  have hshare :
      ((r.share part count : Nat) : Int) =
        (count : Int) * part / r.totalParts := by
    simp [share]
  rw [IsShare, hshare, ← Int.le_ediv_iff_mul_le hparts,
    ← Int.ediv_lt_iff_lt_mul hparts]
  constructor
  · rintro ⟨hle, hlt⟩
    omega
  · intro heq
    omega

theorem share_mono_part (r : Ratio) {part part' : Nat}
    (hpart : part ≤ part') (count : Nat) :
    r.share part count ≤ r.share part' count :=
  Nat.div_le_div_right (Nat.mul_le_mul_left count hpart)

/-- The larger of two exact shares has the larger floored share, be they shares of one ratio or of
two.  Exact shares are compared by their products with both numbers of parts. -/
theorem share_le_share {r r' : Ratio} {part part' count count' : Nat}
    (hexact : count * part * r'.totalParts ≤ count' * part' * r.totalParts) :
    r.share part count ≤ r'.share part' count' := by
  have hfloor : r.share part count * r.totalParts ≤ count * part :=
    Nat.div_mul_le_self _ _
  apply (Nat.le_div_iff_mul_le r'.totalParts_pos).mpr
  apply Nat.le_of_mul_le_mul_right _ r.totalParts_pos
  calc
    r.share part count * r'.totalParts * r.totalParts =
        r.share part count * r.totalParts * r'.totalParts :=
      Nat.mul_right_comm _ _ _
    _ ≤ count * part * r'.totalParts := Nat.mul_le_mul_right _ hfloor
    _ ≤ count' * part' * r.totalParts := hexact

/-- Whole cycles on top of a count add their parts to a share, whatever the count leaves over. -/
theorem share_add_cycles (r : Ratio) (part count k : Nat) :
    r.share part (count + k * r.totalParts) = r.share part count + k * part := by
  have hcycles : (count + k * r.totalParts) * part =
      count * part + k * part * r.totalParts := by
    rw [Nat.add_mul, Nat.mul_right_comm]
  rw [share, hcycles, Nat.add_mul_div_right _ _ r.totalParts_pos]
  rfl

/-- All parts together have the whole count as their share. -/
theorem share_totalParts (r : Ratio) (count : Nat) :
    r.share r.totalParts count = count :=
  Nat.mul_div_cancel count r.totalParts_pos

/-- Flooring two shares apart leaves no more than flooring them together. -/
theorem share_add_share_le (r : Ratio) (part part' count : Nat) :
    r.share part count + r.share part' count ≤
      r.share (part + part') count := by
  rw [share, share, share, Nat.mul_add]
  exact Nat.div_add_div_le_add_div

/-- The shares of input and creation fit into a count together. -/
theorem input_share_add_creation_share_le (r : Ratio) (count : Nat) :
    r.share r.input count + r.share r.creation count ≤ count := by
  have hparts : r.input + r.creation ≤ r.totalParts :=
    Nat.le_add_right _ _
  calc
    r.share r.input count + r.share r.creation count ≤
        r.share (r.input + r.creation) count :=
      r.share_add_share_le _ _ _
    _ ≤ r.share r.totalParts count := r.share_mono_part hparts count
    _ = count := r.share_totalParts count

theorem split_of_lt (r : Ratio) {count : Nat} (hcount : count < r.threshold) :
    r.split count = Split.plain count := by
  simp [split, hcount]

theorem split_of_le (r : Ratio) {count : Nat} (hcount : r.threshold ≤ count) :
    r.split count =
      ⟨r.share r.input count, r.share r.creation count,
        count - r.share r.input count - r.share r.creation count⟩ := by
  simp [split, Nat.not_lt.mpr hcount]

/-- No token is made or lost. -/
theorem total_split (r : Ratio) (count : Nat) :
    (r.split count).total = count := by
  by_cases hcount : count < r.threshold
  · rw [r.split_of_lt hcount]
    simp [Split.total, Split.plain]
  · rw [r.split_of_le (Nat.not_lt.mp hcount)]
    have hfit := r.input_share_add_creation_share_le count
    simp only [Split.total]
    omega

theorem input_split_le (r : Ratio) (count : Nat) :
    (r.split count).input ≤ count := by
  have htotal := r.total_split count
  simp only [Split.total] at htotal
  omega

/-- From the threshold on, the split of a count is its only cut. -/
theorem isCut_iff (r : Ratio) {count : Nat} (hcount : r.threshold ≤ count)
    (input creation read : Int) :
    r.IsCut count input creation read ↔
      input = (r.split count).input ∧
        creation = (r.split count).creation ∧
          read = (r.split count).read := by
  have htotal := r.total_split count
  rw [r.split_of_le hcount] at htotal ⊢
  simp only [Split.total] at htotal
  dsimp only
  constructor
  · rintro ⟨hsum, hinput, hcreation⟩
    rw [isShare_iff] at hinput hcreation
    exact ⟨hinput, hcreation, by omega⟩
  · rintro ⟨hinput, hcreation, hread⟩
    exact {
      total := by omega
      input_share := (r.isShare_iff _ _ _).mpr hinput
      creation_share := (r.isShare_iff _ _ _).mpr hcreation }

end Ratio

end TokenSplit
