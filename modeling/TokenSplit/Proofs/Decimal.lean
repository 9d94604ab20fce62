import TokenSplit.Decimal.Numeral

/-!
# Decimal digits

The digits of a number determine it, and only zero is written with a zero in front.  The larger a
number, the longer its numeral, so every number up to a writable one is writable.
-/

namespace TokenSplit.Decimal

theorem isDigit_of_mem_digits {n : Nat} {c : Char} (hc : c ∈ digits n) :
    c.isDigit :=
  Nat.isDigit_of_mem_toDigits (by decide) (by decide) hc

theorem digits_ne_nil (n : Nat) : digits n ≠ [] :=
  Nat.toDigits_ne_nil

/-- Reading the digits of a number from left to right gives the number. -/
theorem foldl_digits (n : Nat) :
    (digits n).foldl (fun m c => m * 10 + (c.toNat - 48)) 0 = n := by
  have hread := Nat.ofDigitChars_ten_toDigits (n := n)
  rw [Nat.ofDigitChars_eq_foldl] at hread
  have hzero : '0'.toNat = 48 := rfl
  simpa only [Nat.mul_comm, hzero, digits] using hread

/-- A number above zero is not written with a zero in front. -/
theorem head?_digits_ne_zero {n : Nat} (hn : 0 < n) :
    (digits n).head? ≠ some '0' := by
  induction n using Nat.strongRecOn with
  | ind n ih =>
      rw [digits, Nat.toDigits_eq_if (by decide)]
      split
      next hlt =>
        simp
        omega
      next hge =>
        have htens := ih (n / 10) (by omega) (by omega)
        rw [digits] at htens
        rw [List.head?_append]
        cases hhead : (Nat.toDigits 10 (n / 10)).head? with
        | none => simp at hhead
        | some c => simpa [hhead] using htens

theorem length_digits_le_iff {k : Nat} (hk : 0 < k) (n : Nat) :
    (digits n).length ≤ k ↔ n < Nat.pow 10 k :=
  Nat.length_toDigits_le_iff (by decide) hk

theorem length_digits_mono {m n : Nat} (hle : m ≤ n) :
    (digits m).length ≤ (digits n).length := by
  have hlength : 0 < (digits n).length :=
    List.length_pos_iff.mpr (digits_ne_nil n)
  have hn := (length_digits_le_iff hlength n).mp (Nat.le_refl _)
  exact (length_digits_le_iff hlength m).mpr (Nat.lt_of_le_of_lt hle hn)

theorem writable_iff (n : Nat) : Writable n ↔ n < Nat.pow 10 digitLimit :=
  length_digits_le_iff (by decide) n

theorem Writable.mono {m n : Nat} (hle : m ≤ n) (hn : Writable n) :
    Writable m :=
  Nat.le_trans (length_digits_mono hle) hn

end TokenSplit.Decimal
