import TokenSplit.Proofs.Split.Rounding

/-!
# Growing counts

With the count the floored shares grow, never by more tokens than the count has gained, and so
does the input on either side of the threshold.  The reads take the rest and need not grow: from
one count to the next both shares can step at once, and then the reads give one token back.  That
is all they can ever give back, however far two counts are apart, since they stay within two
tokens of an exact share that grows.
-/

namespace TokenSplit

namespace Ratio

/-! ## Shares of growing counts -/

theorem share_mono_count (r : Ratio) (part : Nat) {count count' : Nat}
    (hcount : count ≤ count') : r.share part count ≤ r.share part count' :=
  share_le_share (Nat.mul_le_mul_right _ (Nat.mul_le_mul_right part hcount))

/-- A share gains no more tokens than its count. -/
theorem share_le_share_add_sub (r : Ratio) {part count count' : Nat}
    (hpart : part ≤ r.totalParts) (hcount : count ≤ count') :
    r.share part count' ≤ r.share part count + (count' - count) := by
  obtain ⟨gained, rfl⟩ := Nat.exists_eq_add_of_le hcount
  rw [Nat.add_sub_cancel_left]
  calc
    r.share part (count + gained) =
        (count * part + gained * part) / r.totalParts := by
      rw [share, Nat.add_mul]
    _ ≤ (count * part + gained * r.totalParts) / r.totalParts :=
      Nat.div_le_div_right
        (Nat.add_le_add_left (Nat.mul_le_mul_left gained hpart) _)
    _ = r.share part count + gained :=
      Nat.add_mul_div_right _ _ r.totalParts_pos

/-- With the token after `count`, what is left over of a share runs over into a whole token. -/
def StepsAt (r : Ratio) (part count : Nat) : Prop :=
  (count + 1) * part % r.totalParts < part

instance (r : Ratio) (part count : Nat) : Decidable (r.StepsAt part count) :=
  inferInstanceAs (Decidable (_ < _))

/-- From one count to the next a share gains one token where it steps, and none elsewhere. -/
theorem share_succ (r : Ratio) {part : Nat} (hpart : part ≤ r.totalParts)
    (count : Nat) :
    r.share part (count + 1) =
      r.share part count + if r.StepsAt part count then 1 else 0 := by
  have hle : count ≤ count + 1 := Nat.le_succ count
  have hmono := r.share_mono_count part hle
  have hgain := r.share_le_share_add_sub hpart hle
  have hnow := r.totalParts_mul_share_add_mod part count
  have hnext := r.totalParts_mul_share_add_mod part (count + 1)
  have hrest := Nat.mod_lt (count * part) r.totalParts_pos
  rw [Nat.succ_mul] at hnext
  split
  -- Either way one of the two possible values leaves a remainder out of range.
  next hstep =>
    rw [StepsAt, Nat.succ_mul] at hstep
    have hne : r.share part (count + 1) ≠ r.share part count := by
      intro hsame
      rw [hsame] at hnext
      omega
    omega
  next hstep =>
    rw [StepsAt, Nat.succ_mul] at hstep
    have hne : r.share part (count + 1) ≠ r.share part count + 1 := by
      intro hsame
      rw [hsame, Nat.mul_succ] at hnext
      omega
    omega

/-- A share of some parts steps into every whole cycle. -/
theorem stepsAt_of_dvd {r : Ratio} {part count : Nat} (hpart : 0 < part)
    (hcycle : r.totalParts ∣ count + 1) : r.StepsAt part count := by
  have hrest : (count + 1) * part % r.totalParts = 0 :=
    Nat.mod_eq_zero_of_dvd (Nat.dvd_mul_right_of_dvd hcycle part)
  rw [StepsAt, hrest]
  exact hpart

/-! ## Buckets of growing counts -/

theorem creation_split_mono (r : Ratio) {count count' : Nat}
    (hcount : count ≤ count') :
    (r.split count).creation ≤ (r.split count').creation := by
  by_cases hlow : count < r.threshold
  · rw [r.split_of_lt hlow]
    exact Nat.zero_le _
  · have hhigh : r.threshold ≤ count := Nat.not_lt.mp hlow
    have hhigh' : r.threshold ≤ count' := Nat.le_trans hhigh hcount
    rw [r.split_of_le hhigh, r.split_of_le hhigh']
    exact r.share_mono_count r.creation hcount

/-- The reads never fall by more than one token. -/
theorem read_split_le_succ (r : Ratio) {count count' : Nat}
    (hcount : count ≤ count') :
    (r.split count).read ≤ (r.split count').read + 1 := by
  by_cases hlow : count < r.threshold
  · rw [r.split_of_lt hlow]
    exact Nat.zero_le _
  · have hhigh : r.threshold ≤ count := Nat.not_lt.mp hlow
    apply read_le_read_succ hhigh (Nat.le_trans hhigh hcount)
    exact Nat.mul_le_mul_right _ (Nat.mul_le_mul_right _ hcount)

/-- On one side of the threshold the input does not fall, and no bucket gains more tokens than
the count. -/
theorem split_growth_of_same_side (r : Ratio) {count count' : Nat}
    (hcount : count ≤ count')
    (hside : count < r.threshold ↔ count' < r.threshold) :
    (r.split count).input ≤ (r.split count').input ∧
      (r.split count').input ≤ (r.split count).input + (count' - count) ∧
      (r.split count').creation ≤
        (r.split count).creation + (count' - count) ∧
      (r.split count').read ≤ (r.split count).read + (count' - count) := by
  by_cases hlow : count < r.threshold
  · rw [r.split_of_lt hlow, r.split_of_lt (hside.mp hlow)]
    exact ⟨hcount, by simp only [Split.plain]; omega, Nat.zero_le _,
      Nat.zero_le _⟩
  · have hhigh : r.threshold ≤ count := Nat.not_lt.mp hlow
    have hhigh' : r.threshold ≤ count' := Nat.le_trans hhigh hcount
    have hinput := r.share_mono_count r.input hcount
    have hcreation := r.share_mono_count r.creation hcount
    rw [r.split_of_le hhigh, r.split_of_le hhigh']
    refine ⟨hinput, r.share_le_share_add_sub r.input_le_totalParts hcount,
      r.share_le_share_add_sub r.creation_le_totalParts hcount, ?_⟩
    dsimp only
    omega

/-- The reads get the next token, less one for each share that steps. -/
theorem read_split_succ (r : Ratio) {count : Nat}
    (hcount : r.threshold ≤ count) :
    (r.split (count + 1)).read +
        ((if r.StepsAt r.input count then 1 else 0) +
          if r.StepsAt r.creation count then 1 else 0) =
      (r.split count).read + 1 := by
  have hnow := r.total_split count
  have hnext := r.total_split (count + 1)
  have hlater : r.threshold ≤ count + 1 := Nat.le_succ_of_le hcount
  rw [r.split_of_le hcount] at hnow ⊢
  rw [r.split_of_le hlater] at hnext ⊢
  simp only [Split.total] at hnow hnext ⊢
  have hinput := r.share_succ r.input_le_totalParts count
  have hcreation := r.share_succ r.creation_le_totalParts count
  omega

/-- From one count to the next the reads fall just where both shares step. -/
theorem read_falls_iff (r : Ratio) {count : Nat}
    (hcount : r.threshold ≤ count) :
    (r.split (count + 1)).read + 1 = (r.split count).read ↔
      r.StepsAt r.input count ∧ r.StepsAt r.creation count := by
  have hread := r.read_split_succ hcount
  by_cases hinput : r.StepsAt r.input count
  · by_cases hcreation : r.StepsAt r.creation count
    · rw [if_pos hinput, if_pos hcreation] at hread
      exact iff_of_true (by omega) ⟨hinput, hcreation⟩
    · rw [if_pos hinput, if_neg hcreation] at hread
      exact iff_of_false (by omega) fun h => hcreation h.2
  · have hone : (if r.StepsAt r.creation count then 1 else 0) ≤ 1 := by
      split <;> decide
    rw [if_neg hinput] at hread
    exact iff_of_false (by omega) fun h => hinput h.1

/-- When a count grows, creation does not fall and the reads fall by at most one token.  On one
side of the threshold the input does not fall either, and no bucket gains more than the count.
The reads do fall: by one token with the token that completes a cycle, if both other parts are
above zero. -/
theorem allocate_growth (r : Ratio) :
    (∀ count count' : Nat, count ≤ count' →
      ∃ s s' : Split,
        (r.allocate (.count count)).result = .ok s ∧
        (r.allocate (.count count')).result = .ok s' ∧
        s.creation ≤ s'.creation ∧
        s.read ≤ s'.read + 1 ∧
        ((count < r.threshold ↔ count' < r.threshold) →
          s.input ≤ s'.input ∧
          s'.input ≤ s.input + (count' - count) ∧
          s'.creation ≤ s.creation + (count' - count) ∧
          s'.read ≤ s.read + (count' - count))) ∧
    (∀ count : Nat, 0 < r.input → 0 < r.creation → r.threshold ≤ count →
      r.totalParts ∣ count + 1 →
        ∃ s s' : Split,
          (r.allocate (.count count)).result = .ok s ∧
          (r.allocate (.count (count + 1))).result = .ok s' ∧
          s'.read + 1 = s.read) := by
  constructor
  · intro count count' hcount
    exact ⟨_, _, r.result_allocate_count count,
      r.result_allocate_count count', r.creation_split_mono hcount,
      r.read_split_le_succ hcount, r.split_growth_of_same_side hcount⟩
  · intro count hinput hcreation hcount hcycle
    refine ⟨_, _, r.result_allocate_count count,
      r.result_allocate_count (count + 1), ?_⟩
    rw [r.read_falls_iff hcount]
    exact ⟨stepsAt_of_dvd hinput hcycle, stepsAt_of_dvd hcreation hcycle⟩

/-- The hundred and twelfth token completes the fourth cycle of the standard ratio and takes one
token from the reads. -/
theorem allocate_growth_fourth_cycle :
    ∃ s s' : Split,
      (Ratio.standard.allocate (.count 111)).result = .ok s ∧
      (Ratio.standard.allocate (.count 112)).result = .ok s' ∧
      s.creation ≤ s'.creation ∧ s'.input ≤ s.input + 1 ∧
      s.read = 101 ∧ s'.read = 100 ∧ s'.read + 1 = s.read := by
  obtain ⟨hgrowth, hfall⟩ := allocate_growth Ratio.standard
  obtain ⟨s, s', hs, hs', hcreation, -, hside⟩ :=
    hgrowth 111 112 (by decide)
  obtain ⟨t, t', ht, ht', hread⟩ :=
    hfall 111 (by decide) (by decide) (by decide) (by decide)
  have hinput := (hside (by decide)).2.1
  have hsplit : s = ⟨3, 7, 101⟩ := (Except.ok.inj hs).symm
  have hsplit' : s' = ⟨4, 8, 100⟩ := (Except.ok.inj hs').symm
  have hsame : t = s := Except.ok.inj (ht.symm.trans hs)
  have hsame' : t' = s' := Except.ok.inj (ht'.symm.trans hs')
  subst hsame hsame' hsplit hsplit'
  exact ⟨_, _, hs, hs', hcreation, hinput, rfl, rfl, hread⟩

end Ratio

end TokenSplit
