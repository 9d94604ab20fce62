import TokenSplit.Proofs.Allocation

/-!
# Rounding of the reads

Cache reads are never divided: they take what flooring the shares of input and creation leaves
over.  So the reads are at least their exact share and exceed it by the two remainders, which
together are less than two whole tokens.  A ratio without a part for reads still gives them one
token wherever the other shares leave a remainder.
-/

namespace TokenSplit

namespace Ratio

/-- A floored share and its remainder make up the exact share. -/
theorem totalParts_mul_share_add_mod (r : Ratio) (part count : Nat) :
    r.totalParts * r.share part count + count * part % r.totalParts =
      count * part :=
  Nat.div_add_mod (count * part) r.totalParts

theorem mod_add_mod_lt (r : Ratio) (m n : Nat) :
    m % r.totalParts + n % r.totalParts < 2 * r.totalParts := by
  have hm := Nat.mod_lt m r.totalParts_pos
  have hn := Nat.mod_lt n r.totalParts_pos
  omega

/-- The reads are their exact share together with both remainders. -/
theorem totalParts_mul_read (r : Ratio) {count : Nat}
    (hcount : r.threshold ≤ count) :
    r.totalParts * (r.split count).read =
      count * r.read +
        (count * r.input % r.totalParts +
          count * r.creation % r.totalParts) := by
  have htotal : r.share r.input count + r.share r.creation count +
      (r.split count).read = count := by
    have h := r.total_split count
    rw [r.split_of_le hcount] at h ⊢
    exact h
  have hparts : r.totalParts * count =
      count * r.input + count * r.creation + count * r.read := by
    rw [Nat.mul_comm, totalParts, Nat.mul_add, Nat.mul_add]
  have hbuckets : r.totalParts * count =
      r.totalParts * r.share r.input count +
        r.totalParts * r.share r.creation count +
          r.totalParts * (r.split count).read := by
    rw [← Nat.mul_add, ← Nat.mul_add, htotal]
  have hinput := r.totalParts_mul_share_add_mod r.input count
  have hcreation := r.totalParts_mul_share_add_mod r.creation count
  omega

/-- The reads are their floored share, or one or two tokens more. -/
theorem read_cases (r : Ratio) {count : Nat} (hcount : r.threshold ≤ count) :
    (r.split count).read = r.share r.read count ∨
      (r.split count).read = r.share r.read count + 1 ∨
        (r.split count).read = r.share r.read count + 2 := by
  have hread := r.totalParts_mul_read hcount
  have hshare := r.totalParts_mul_share_add_mod r.read count
  have hrest := Nat.mod_lt (count * r.read) r.totalParts_pos
  have hremainders :=
    r.mod_add_mod_lt (count * r.input) (count * r.creation)
  have hle : r.share r.read count ≤ (r.split count).read := by
    apply Nat.le_of_mul_le_mul_left _ r.totalParts_pos
    omega
  have hlt : (r.split count).read < r.share r.read count + 3 := by
    apply Nat.lt_of_mul_lt_mul_left (a := r.totalParts)
    rw [Nat.mul_add]
    omega
  omega

/-- Where the exact share of the reads does not fall, the reads fall by at most one token: they are
never below it and less than two tokens above it. -/
theorem read_le_read_succ {r r' : Ratio} {count count' : Nat}
    (hcount : r.threshold ≤ count) (hcount' : r'.threshold ≤ count')
    (hexact : count * r.read * r'.totalParts ≤
      count' * r'.read * r.totalParts) :
    (r.split count).read ≤ (r'.split count').read + 1 := by
  have habove : r.totalParts * (r.split count).read <
      count * r.read + 2 * r.totalParts := by
    have hread := r.totalParts_mul_read hcount
    have hremainders :=
      r.mod_add_mod_lt (count * r.input) (count * r.creation)
    omega
  have hbelow : count' * r'.read ≤
      r'.totalParts * (r'.split count').read := by
    rw [r'.totalParts_mul_read hcount']
    exact Nat.le_add_right _ _
  apply Nat.le_of_lt_succ
  apply Nat.lt_of_mul_lt_mul_left (a := r.totalParts * r'.totalParts)
  calc
    r.totalParts * r'.totalParts * (r.split count).read =
        r.totalParts * (r.split count).read * r'.totalParts :=
      Nat.mul_right_comm _ _ _
    _ < (count * r.read + 2 * r.totalParts) * r'.totalParts :=
      Nat.mul_lt_mul_of_pos_right habove r'.totalParts_pos
    _ = count * r.read * r'.totalParts +
        2 * (r.totalParts * r'.totalParts) := by
      rw [Nat.add_mul, Nat.mul_assoc 2]
    _ ≤ count' * r'.read * r.totalParts +
        2 * (r.totalParts * r'.totalParts) := Nat.add_le_add_right hexact _
    _ ≤ r'.totalParts * (r'.split count').read * r.totalParts +
        2 * (r.totalParts * r'.totalParts) :=
      Nat.add_le_add_right (Nat.mul_le_mul_right _ hbelow) _
    _ = r.totalParts * r'.totalParts * ((r'.split count').read + 2) := by
      rw [Nat.mul_add, Nat.mul_comm 2, Nat.mul_right_comm r'.totalParts,
        Nat.mul_comm r'.totalParts]

/-- The reads are their exact share just where both floored shares are exact. -/
theorem read_exact_iff (r : Ratio) {count : Nat}
    (hcount : r.threshold ≤ count) :
    r.totalParts * (r.split count).read = count * r.read ↔
      r.totalParts ∣ count * r.input ∧ r.totalParts ∣ count * r.creation := by
  have hread := r.totalParts_mul_read hcount
  rw [Nat.dvd_iff_mod_eq_zero, Nat.dvd_iff_mod_eq_zero]
  constructor
  · intro hexact
    exact ⟨by omega, by omega⟩
  · rintro ⟨hinput, hcreation⟩
    omega

/-- Without a part for reads, the remainders of the two shares cancel or make up one token. -/
theorem read_of_no_part (r : Ratio) {count : Nat}
    (hcount : r.threshold ≤ count) (hpart : r.read = 0) :
    ((r.split count).read = 0 ∨ (r.split count).read = 1) ∧
      ((r.split count).read = 0 ↔ r.totalParts ∣ count * r.input) := by
  have hread := r.totalParts_mul_read hcount
  have hexact := r.read_exact_iff hcount
  have hremainders :=
    r.mod_add_mod_lt (count * r.input) (count * r.creation)
  rw [hpart, Nat.mul_zero] at hread hexact
  have hlt : (r.split count).read < 2 := by
    apply Nat.lt_of_mul_lt_mul_left (a := r.totalParts)
    omega
  have hzero : r.totalParts * (r.split count).read = 0 ↔
      (r.split count).read = 0 := by
    rw [Nat.mul_eq_zero]
    exact or_iff_right (Nat.ne_of_gt r.totalParts_pos)
  -- The two exact shares make up whole cycles, so one is whole if the other is.
  have hwhole : count * r.input + count * r.creation =
      r.totalParts * count := by
    rw [totalParts, hpart, Nat.add_zero, ← Nat.mul_add, Nat.mul_comm]
  have hother : r.totalParts ∣ count * r.input →
      r.totalParts ∣ count * r.creation := by
    intro hinput
    rw [← Nat.dvd_add_right hinput, hwhole]
    exact Nat.dvd_mul_right _ _
  refine ⟨by omega, ?_⟩
  rw [← hzero, hexact]
  exact ⟨And.left, fun hinput => ⟨hinput, hother hinput⟩⟩

/-- From the threshold on, the reads exceed their exact share by the remainders of the other two
shares.  That is never below zero and less than two tokens, so the reads are the floored share or
one or two tokens more, and they are exact just where both other shares are.  With no part for
reads they are one token, or none just where the share of input is exact. -/
theorem allocate_read_rounding (r : Ratio) {count : Nat}
    (hcount : r.threshold ≤ count) :
    ∃ s : Split,
      (r.allocate (.count count)).result = .ok s ∧
      (r.totalParts * s.read - count * r.read : Int) =
        (count * r.input % r.totalParts + count * r.creation % r.totalParts) ∧
      count * r.read ≤ r.totalParts * s.read ∧
      r.totalParts * s.read < count * r.read + 2 * r.totalParts ∧
      (s.read = count * r.read / r.totalParts ∨
        s.read = count * r.read / r.totalParts + 1 ∨
        s.read = count * r.read / r.totalParts + 2) ∧
      (r.totalParts * s.read = count * r.read ↔
        r.totalParts ∣ count * r.input ∧
          r.totalParts ∣ count * r.creation) ∧
      (r.read = 0 →
        (s.read = 0 ∨ s.read = 1) ∧
          (s.read = 0 ↔ r.totalParts ∣ count * r.input)) := by
  have hread := r.totalParts_mul_read hcount
  have hremainders :=
    r.mod_add_mod_lt (count * r.input) (count * r.creation)
  refine ⟨r.split count, ?_, ?_, by omega, by omega, r.read_cases hcount,
    r.read_exact_iff hcount, r.read_of_no_part hcount⟩
  · rw [r.allocate_of_tokens (Value.tokens_count count)]
  · rw [Int.sub_eq_iff_eq_add']
    exact_mod_cast hread

/-- A ratio that gives nothing to reads still has one of three tokens read. -/
theorem allocate_read_rounding_three :
    ∃ s : Split,
      ((⟨1, 1, 0, 0, by decide⟩ : Ratio).allocate (.count 3)).result = .ok s ∧
      s.read = 1 := by
  let half : Ratio := ⟨1, 1, 0, 0, by decide⟩
  have hcount : half.threshold ≤ 3 := by decide
  obtain ⟨s, hs, -, -, -, -, -, hnone⟩ := allocate_read_rounding half hcount
  obtain ⟨hcases, hzero⟩ := hnone rfl
  have hodd : ¬s.read = 0 := by
    rw [hzero]
    decide
  exact ⟨s, hs, hcases.resolve_left hodd⟩

end Ratio

end TokenSplit
