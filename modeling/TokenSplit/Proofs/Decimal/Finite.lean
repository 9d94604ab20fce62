import TokenSplit.Proofs.Decimal
import TokenSplit.Decimal.Exact

/-!
# Finite binary numbers

A binary number is finite unless all bits of its exponent are set.  Just the finite ones are taken
apart into a significand and a power of two, and so just they have an integer part.  It is below
two to the power of 1024, so it always has a numeral.
-/

namespace TokenSplit.Decimal

open Float.Model (Format UnpackedFloat)
open Float.Model.UnpackedFloat (unpackExponent unpackMantissa)

/-- The exponent of a binary number as it is stored. -/
def storedExponent (x : Float) : Nat :=
  x.toBits.toNat / Nat.pow 2 52 % Nat.pow 2 11

theorem storedExponent_lt (x : Float) : storedExponent x < 2048 :=
  Nat.mod_lt _ (by decide)

theorem unpackExponent_eq_iff (x : Float) :
    @unpackExponent Format.binary64 x.toBits.toBitVec = -1#_ ↔
      storedExponent x = 2047 := by
  rw [← BitVec.toNat_inj]
  simp only [unpackExponent, BitVec.toNat_cast, BitVec.extractLsb_toNat,
    Nat.shiftRight_eq_div_pow]
  exact Iff.rfl

theorem isFinite_iff (x : Float) :
    x.isFinite = true ↔ storedExponent x ≠ 2047 := by
  have hunpack : x.isFinite =
      (UnpackedFloat.unpack Format.binary64 x.toBits.toBitVec).isFinite := rfl
  rw [hunpack, ne_eq, ← unpackExponent_eq_iff]
  unfold UnpackedFloat.unpack
  dsimp only
  by_cases hall :
      @unpackExponent Format.binary64 x.toBits.toBitVec = -1#_
  · refine iff_of_false ?_ (not_not_intro hall)
    rw [if_pos hall]
    exact iteInduction (motive := fun u => ¬UnpackedFloat.isFinite u = true)
      (fun _ => Bool.false_ne_true) (fun _ => Bool.false_ne_true)
  · refine iff_of_true ?_ hall
    rw [if_neg hall]
    refine iteInduction (motive := fun u => UnpackedFloat.isFinite u = true)
      (fun _ => ?_) (fun _ => rfl)
    by_cases hzero :
        @unpackMantissa Format.binary64 x.toBits.toBitVec = 0#_
    · rw [dif_pos hzero]
      rfl
    · rw [dif_neg hzero]
      rfl

theorem isNaN_eq_false_of_isFinite {x : Float} (hx : x.isFinite = true) :
    x.isNaN = false := by
  have hfinite : x.isFinite =
      (UnpackedFloat.unpack Format.binary64 x.toBits.toBitVec).isFinite := rfl
  have hnan : x.isNaN =
      (UnpackedFloat.unpack Format.binary64 x.toBits.toBitVec).isNaN := rfl
  rw [hfinite] at hx
  rw [hnan]
  cases hunpack : UnpackedFloat.unpack Format.binary64 x.toBits.toBitVec with
  | notANumber =>
      rw [hunpack] at hx
      cases hx
  | infinity => rfl
  | zero => rfl
  | finite => rfl

/-- The finite numbers are those that are a significand times a power of two, and neither of the
two is large. -/
theorem parts?_cases (x : Float) :
    (x.isFinite = false ∧ parts? x = none) ∨
    (x.isFinite = true ∧ ∃ m q, parts? x = some (m, q) ∧
      m.natAbs < Nat.pow 2 53 ∧ q ≤ 971) := by
  have hstored : x.toBits.toNat / Nat.pow 2 52 % Nat.pow 2 11 =
      storedExponent x := rfl
  have hfraction : x.toBits.toNat % Nat.pow 2 52 < Nat.pow 2 52 :=
    Nat.mod_lt _ (by decide)
  have hsign : ∀ m : Nat,
      ((if x.toBits.toNat / Nat.pow 2 63 = 1 then -1 else 1 : Int) *
        (m : Int)).natAbs = m := by
    intro m
    split
    · rw [Int.neg_one_mul, Int.natAbs_neg, Int.natAbs_natCast]
    · rw [Int.one_mul, Int.natAbs_natCast]
  by_cases hx : x.isFinite = true
  · have hnan := isNaN_eq_false_of_isFinite hx
    have hexponent := (isFinite_iff x).mp hx
    have hlt := storedExponent_lt x
    refine .inr ⟨hx, ?_⟩
    simp only [parts?, hstored, hnan, hexponent, Bool.false_eq_true, or_self,
      if_false]
    split
    · exact ⟨_, _, rfl, by rw [hsign]; exact Nat.lt_trans hfraction (by decide), by decide⟩
    · refine ⟨_, _, rfl, ?_, by omega⟩
      rw [hsign]
      exact Nat.add_lt_add_left hfraction _
  · have hexponent := Decidable.not_not.mp (mt (isFinite_iff x).mpr hx)
    refine .inl ⟨Bool.eq_false_iff.mpr hx, ?_⟩
    simp only [parts?, hstored, hexponent, or_true, if_true]

theorem isSome_integerPart?_iff (x : Float) :
    (integerPart? x).isSome ↔ x.isFinite = true := by
  rcases parts?_cases x with ⟨hx, hparts⟩ | ⟨hx, m, q, hparts, -⟩
  · simp [integerPart?, hparts, hx]
  · simp [integerPart?, hparts, hx]

theorem natAbs_pow_two (k : Nat) : (Int.pow 2 k).natAbs = Nat.pow 2 k :=
  Int.natAbs_pow 2 k

theorem mul_pow_lt {m a : Nat} (hm : m < Nat.pow 2 a) (b : Nat) :
    m * Nat.pow 2 b < Nat.pow 10 (a + b) :=
  calc
    m * Nat.pow 2 b < Nat.pow 2 a * Nat.pow 2 b :=
      Nat.mul_lt_mul_of_pos_right hm (Nat.pow_pos (by decide))
    _ = Nat.pow 2 (a + b) := (Nat.pow_add 2 a b).symm
    _ ≤ Nat.pow 10 (a + b) := Nat.pow_le_pow_left (by decide) _

/-- The integer part of every finite number can be written. -/
theorem writable_of_integerPart? {x : Float} {n : Int}
    (hpart : integerPart? x = some n) : Writable n := by
  rcases parts?_cases x with ⟨hx, hparts⟩ | ⟨hx, m, q, hparts, hm, hq⟩
  · simp [integerPart?, hparts] at hpart
  · have hn : n = (m * Int.pow 2 q.toNat).tdiv (Int.pow 2 (-q).toNat) := by
      rw [integerPart?, hparts] at hpart
      exact (Option.some.inj hpart).symm
    have hdiv : n.natAbs ≤ m.natAbs * Nat.pow 2 q.toNat := by
      rw [hn, Int.natAbs_tdiv, Int.natAbs_mul, natAbs_pow_two]
      exact Nat.div_le_self _ _
    have hlt : n.natAbs < Nat.pow 10 (53 + q.toNat) :=
      Nat.lt_of_le_of_lt hdiv (mul_pow_lt hm q.toNat)
    calc
      (digits n.natAbs).length ≤ 53 + q.toNat :=
        (length_digits_le_iff (Nat.add_pos_left (by decide) _) _).mpr hlt
      _ ≤ 1024 := by omega
      _ ≤ digitLimit := by decide

end TokenSplit.Decimal
