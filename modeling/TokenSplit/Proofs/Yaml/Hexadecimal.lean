import TokenSplit.Proofs.Yaml.Word
import TokenSplit.Yaml.Scalar

/-!
# Hexadecimal numerals

A plain text of `0x` and hexadecimal digits is an integer.  There is no limit for its digits, so
it may be a number without a decimal numeral.
-/

namespace TokenSplit

namespace Decimal

theorem trimMargin_of_forall {s : List Char}
    (hs : ∀ c ∈ s, isMargin c = false) : trimMargin s = s := by
  have hdrop {l : List Char} (hl : ∀ c ∈ l, isMargin c = false) :
      l.dropWhile isMargin = l := by
    refine List.dropWhile_eq_self_iff.mpr fun hlength => ?_
    simp [hl _ (List.getElem_mem hlength)]
  have hreverse : ∀ c ∈ s.reverse, isMargin c = false := by
    intro c hc
    exact hs c (List.mem_reverse.mp hc)
  rw [trimMargin, hdrop hs, hdrop hreverse, List.reverse_reverse]

/-- Every zero behind the digits multiplies their number by the base. -/
theorem natural_append_zeros (base : Nat) (digits : List Char) (n : Nat) :
    natural base (digits ++ List.replicate n '0') =
      natural base digits * Nat.pow base n := by
  have hzero : (digit? base '0').getD 0 = 0 := by
    have hdigit : digit? base '0' = if 0 < base then some 0 else none := rfl
    rw [hdigit]
    split
    · rfl
    · rfl
  induction n with
  | zero => simp [natural]
  | succ n ih =>
      rw [List.replicate_succ', ← List.append_assoc]
      rw [natural, List.foldl_append]
      rw [natural] at ih
      rw [ih]
      simp [hzero, Nat.pow_succ, Nat.mul_assoc, natural]

end Decimal

namespace Yaml

/-- Hexadecimal digits, and at least one. -/
structure IsHexadecimal (digits : List Char) : Prop where
  nonempty : digits ≠ []
  digits : ∀ c ∈ digits, Form.isHexDigit c

theorem lt_of_isHexDigit {c : Char} (hc : Form.isHexDigit c) :
    c.toNat < 128 := by
  simp only [Form.isHexDigit, Char.isDigit, Bool.or_eq_true, Bool.and_eq_true,
    decide_eq_true_eq, Char.le_def, UInt32.le_iff_toNat_le, ge_iff_le] at hc
  have hcode : c.toNat = c.val.toNat := rfl
  have h9 : '9'.val.toNat = 57 := rfl
  have hf : 'f'.val.toNat = 102 := rfl
  have hF : 'F'.val.toNat = 70 := rfl
  omega

theorem isHexadecimal_one_zeros (n : Nat) :
    IsHexadecimal ('1' :: List.replicate n '0') := by
  refine ⟨by simp, ?_⟩
  intro c hc
  rcases List.mem_cons.mp hc with rfl | hzero
  · rfl
  · rw [List.eq_of_mem_replicate hzero]
    rfl

theorem natural_one_zeros (n : Nat) :
    Decimal.natural 16 ('1' :: List.replicate n '0') = Nat.pow 16 n := by
  have hpower := Decimal.natural_append_zeros 16 ['1'] n
  have hone : Decimal.natural 16 ['1'] = 1 := rfl
  rw [hone, Nat.one_mul] at hpower
  exact hpower

namespace IsHexadecimal

variable {digits : List Char} (h : IsHexadecimal digits)

include h

theorem forall_mem {p : Char → Prop}
    (hp : ∀ n < 128, Form.isHexDigit (Char.ofNat n) → p (Char.ofNat n)) :
    ∀ c ∈ digits, p c := by
  intro c hc
  have hdigit : Form.isHexDigit c := h.digits c hc
  exact Text.forall_ascii (p := fun c => Form.isHexDigit c → p c) hp
    (lt_of_isHexDigit hdigit) hdigit

theorem isWord : IsWord ('0' :: 'x' :: digits) := by
  have hdigits := h.forall_mem (p := fun c => isWordChar c) (by decide +kernel)
  refine ⟨by simp, ?_⟩
  intro c hc
  simp only [List.mem_cons] at hc
  rcases hc with rfl | rfl | hc
  · decide
  · decide
  · exact hdigits c hc

theorem isInt_eq : Form.isInt ('0' :: 'x' :: digits) := by
  have hrun : Form.isInt ('0' :: 'x' :: digits) =
      Form.isRun (Form.orGap Form.isHexDigit) digits := rfl
  have hall : digits.all (Form.orGap Form.isHexDigit) := by
    rw [List.all_eq_true]
    intro c hc
    rw [Form.orGap, h.digits c hc, Bool.true_or]
  rw [hrun, Form.isRun, hall]
  simpa using h.nonempty

theorem ofPlain_eq : Tag.ofPlain ('0' :: 'x' :: digits) = .int := by
  have hbool : Form.isBool ('0' :: 'x' :: digits) = false := rfl
  rw [ofPlain_of_isWord h.isWord, Tag.ofLine, hbool,
    isFloat_eq_false_of_isWord h.isWord, h.isInt_eq]
  rfl

theorem bare_eq : Decimal.bare digits = digits := by
  have hmargin := h.forall_mem (p := fun c => Decimal.isMargin c = false)
    (by decide +kernel)
  have hplain := h.forall_mem (p := fun c => Text.plainDigit c = c)
    (by decide +kernel)
  rw [Decimal.bare, Decimal.trimMargin_of_forall hmargin]
  exact (List.map_congr_left hplain).trans (List.map_id digits)

theorem takeSign_eq : Decimal.takeSign digits = (false, digits) := by
  unfold Decimal.takeSign
  split
  · exact absurd (h.digits _ List.mem_cons_self) (by decide)
  · exact absurd (h.digits _ List.mem_cons_self) (by decide)
  · rfl

/-- No hexadecimal digit is the mark of the base. -/
theorem dropMark_eq : Decimal.dropMark 16 digits = digits := by
  have hx := h.forall_mem (p := fun c => c ≠ 'x' ∧ c ≠ 'X') (by decide +kernel)
  unfold Decimal.dropMark
  split
  next mark rest =>
    have hmark := hx mark (by simp)
    simp [hmark]
  · rfl

theorem integer_eq :
    Decimal.integer 16 digits = .ok (Decimal.natural 16 digits) := by
  have hvalue := h.forall_mem (p := fun c => (Decimal.digit? 16 c).isSome)
    (by decide +kernel)
  have htaken := List.takeWhile_eq_self_iff.mpr hvalue
  simp [Decimal.integer, h.bare_eq, h.takeSign_eq, h.dropMark_eq, htaken,
    h.nonempty]

/-- A hexadecimal numeral is read as the number that its digits write. -/
theorem readScalar_eq :
    readScalar (Tag.ofPlain ('0' :: 'x' :: digits)) ('0' :: 'x' :: digits) =
      .ok (.int (Decimal.natural 16 digits)) := by
  have hdigits := h.forall_mem (p := fun c => (c != '_') = true)
    (by decide +kernel)
  have hspaced : ('0' :: 'x' :: digits).filter (· != '_') =
      '0' :: 'x' :: digits := by
    refine List.filter_eq_self.mpr ?_
    intro c hc
    simp only [List.mem_cons] at hc
    rcases hc with rfl | rfl | hc
    · rfl
    · rfl
    · exact hdigits c hc
  have hsign : takeSign ('0' :: 'x' :: digits) =
      .ok (false, '0' :: 'x' :: digits) := rfl
  have hmagnitude : readMagnitude ('0' :: 'x' :: digits) =
      orRefused (Decimal.integer 16 digits) := rfl
  rw [h.ofPlain_eq, readScalar, readInt, hspaced, hsign]
  simp only [hmagnitude, h.integer_eq, orRefused, bind, Except.bind]
  rfl

end IsHexadecimal

end Yaml

end TokenSplit
