import TokenSplit.CommandLine.Count
import TokenSplit.Proofs.Decimal

/-!
# Typed integers are writable

A typed integer is refused if it has more octets than a numeral may have digits.  Signs, blanks,
underscores and zeros after a point only take room from the digits, so whatever is accepted has a
numeral within the limit.
-/

namespace TokenSplit.CommandLine

theorem length_le_utf8ByteSize (s : List Char) :
    s.length ≤ (String.ofList s).utf8ByteSize := by
  induction s with
  | nil => exact Nat.zero_le _
  | cons c s ih =>
      have hc := c.utf8Size_pos
      rw [String.ofList_cons, String.utf8ByteSize_append,
        String.utf8ByteSize_singleton, List.length_cons]
      omega

theorem length_takeSign_le (s : List Char) :
    (Decimal.takeSign s).2.length ≤ s.length := by
  unfold Decimal.takeSign
  split
  · exact Nat.le_succ _
  · exact Nat.le_succ _
  · exact Nat.le_refl _

theorem length_dropZeroFraction_le (s : List Char) :
    (dropZeroFraction s).length ≤ s.length := by
  unfold dropZeroFraction
  split
  · split
    next whole hrest =>
      have h := (List.dropWhile_sublist (l := s.reverse) (· == '0')).length_le
      rw [hrest, List.length_reverse, List.length_cons] at h
      rw [List.length_reverse]
      omega
    next => exact Nat.le_refl _
  · exact Nat.le_refl _

theorem digit_lt_ten {d : Char} (hd : d.isDigit) : d.toNat - 48 < 10 := by
  have h : d.val ≤ 57 := by
    simp only [Char.isDigit, Bool.and_eq_true, decide_eq_true_eq] at hd
    exact hd.2
  have hle : d.toNat ≤ 57 := UInt32.le_iff_toNat_le.mp h
  omega

theorem digit_mul_pow_le {d : Char} (hd : d.isDigit) (number k : Nat) :
    (number * 10 + (d.toNat - 48) + 1) * Nat.pow 10 k ≤
      (number + 1) * Nat.pow 10 (k + 1) := by
  have hten := digit_lt_ten hd
  have hle : number * 10 + (d.toNat - 48) + 1 ≤ (number + 1) * 10 := by omega
  have hpow : Nat.pow 10 (k + 1) = 10 * Nat.pow 10 k :=
    Nat.mul_comm (Nat.pow 10 k) 10
  rw [hpow, ← Nat.mul_assoc]
  exact Nat.mul_le_mul_right _ hle

/-- Every character that is read makes a number at most ten times as large. -/
theorem lt_of_readCount {number n : Nat} {s : List Char}
    (h : readCount number s = some n) :
    n < (number + 1) * Nat.pow 10 s.length := by
  fun_induction readCount number s with
  | case1 => cases h
  | case2 number d hd =>
      cases h
      have hpow := digit_mul_pow_le hd number 0
      exact Nat.lt_of_lt_of_le (by simp) hpow
  | case3 => cases h
  | case4 number d rest hd ih =>
      have hrest := ih h
      have hpow := digit_mul_pow_le hd number rest.length
      have hlonger : (number + 1) * Nat.pow 10 (rest.length + 1) ≤
          (number + 1) * Nat.pow 10 (rest.length + 2) :=
        Nat.mul_le_mul_left _ (Nat.pow_le_pow_right (by decide) (by omega))
      exact Nat.lt_of_lt_of_le hrest (Nat.le_trans hpow hlonger)
  | case5 => cases h
  | case6 number d rest _ _ hd ih =>
      exact Nat.lt_of_lt_of_le (ih h) (digit_mul_pow_le hd number rest.length)
  | case7 => cases h

/-- A word that is accepted holds the digits of its integer within the limit. -/
theorem exists_readCount_of_count {word : String} {n : Int}
    (h : count word = .ok n) :
    ∃ s, s.length ≤ countLimit ∧ readCount 0 s = some n.natAbs := by
  simp only [count] at h
  split at h
  · cases h
  next hshort =>
    generalize Decimal.trimMargin word.toList = s at h hshort
    have hoctets := length_le_utf8ByteSize s
    have hsign := length_takeSign_le s
    have hfraction := length_dropZeroFraction_le (Decimal.takeSign s).2
    refine ⟨dropZeroFraction (Decimal.takeSign s).2, by omega, ?_⟩
    split at h
    next magnitude hread =>
      have habs : n.natAbs = magnitude := by
        rw [← Except.ok.inj h]
        split
        · rw [Int.natAbs_neg, Int.natAbs_natCast]
        · rw [Int.natAbs_natCast]
      rw [hread, habs]
    next => cases h

theorem writable_of_count {word : String} {n : Int}
    (h : count word = .ok n) : Decimal.Writable n := by
  obtain ⟨s, hlength, hread⟩ := exists_readCount_of_count h
  have hlt := lt_of_readCount hread
  rw [Nat.zero_add, Nat.one_mul] at hlt
  have hpos : 0 < s.length := by
    apply List.length_pos_iff.mpr
    rintro rfl
    cases hread
  have hdigits := (Decimal.length_digits_le_iff hpos n.natAbs).mpr hlt
  exact Nat.le_trans hdigits hlength

end TokenSplit.CommandLine
