import Mathlib.Data.List.Basic
import TokenSplit.Proofs.Decimal
import TokenSplit.Proofs.Yaml.Hexadecimal

/-!
# Decimal numerals

The digits of a number are a plain text that is an integer by its form.  No number but zero begins
with the digit zero, so none is taken for an octal one, and none has a colon or a point.  It is
read as the number, unless it has more digits than are read.
-/

namespace TokenSplit.Yaml

open Decimal (digits)

theorem forall_mem_digits {p : Char → Prop}
    (hp : ∀ k < 128, (Char.ofNat k).isDigit → p (Char.ofNat k)) (n : Nat) :
    ∀ c ∈ digits n, p c := by
  intro c hc
  have hdigit := Decimal.isDigit_of_mem_digits hc
  have hhex : Form.isHexDigit c := by
    rw [Form.isHexDigit, hdigit]
    rfl
  exact Text.forall_ascii (p := fun c => c.isDigit → p c) hp
    (lt_of_isHexDigit hhex) hdigit

/-- Decimal digits are among the hexadecimal ones. -/
theorem isHexadecimal_digits (n : Nat) : IsHexadecimal (digits n) := by
  refine ⟨Decimal.digits_ne_nil n, ?_⟩
  exact forall_mem_digits (p := fun c => Form.isHexDigit c)
    (by decide +kernel) n

theorem isWord_digits (n : Nat) : IsWord (digits n) := by
  refine ⟨Decimal.digits_ne_nil n, ?_⟩
  exact forall_mem_digits (p := fun c => isWordChar c) (by decide +kernel) n

/-! ## Forms -/

/-- A number is zero, or its digits begin with another one. -/
theorem digits_cases (n : Nat) :
    digits n = ['0'] ∨
      ∃ c rest, digits n = c :: rest ∧ c.isDigit ∧ c ≠ '0' := by
  cases n with
  | zero => exact .inl rfl
  | succ n =>
      obtain ⟨c, rest, hdigits⟩ :=
        List.exists_cons_of_ne_nil (Decimal.digits_ne_nil (n + 1))
      have hmem : c ∈ digits (n + 1) := by
        rw [hdigits]
        exact List.mem_cons_self
      have hhead := Decimal.head?_digits_ne_zero (Nat.succ_pos n)
      rw [hdigits] at hhead
      refine .inr ⟨c, rest, hdigits, Decimal.isDigit_of_mem_digits hmem, ?_⟩
      exact fun hc => hhead (congrArg some hc)

theorem isWord_eq_false_of_isDigit {words : List String}
    (hwords : words.all fun w => !w.toList.head?.any Char.isDigit) {c : Char}
    (hc : c.isDigit) (rest : List Char) :
    Form.isWord words (c :: rest) = false := by
  rw [Form.isWord, List.any_eq_false]
  intro w hw hequal
  have hletter := List.all_eq_true.mp hwords w hw
  rw [beq_iff_eq.mp hequal] at hletter
  simp [hc] at hletter

/-- No word for a flag begins with a digit. -/
theorem isBool_digits (n : Nat) : Form.isBool (digits n) = false := by
  rcases digits_cases n with hzero | ⟨c, rest, hdigits, hc, -⟩
  · rw [hzero]
    exact isWord_eq_false_of_isDigit (by decide +kernel) rfl []
  · rw [hdigits]
    exact isWord_eq_false_of_isDigit (by decide +kernel) hc rest

theorem parts_eq_singleton {separator : Char} {s : List Char}
    (hs : ∀ c ∈ s, c ≠ separator) : Form.parts separator s = [s] := by
  induction s with
  | nil => rfl
  | cons c s ih =>
      have hc : c ≠ separator := hs c List.mem_cons_self
      have hrest := ih fun d hd => hs d (List.mem_cons_of_mem c hd)
      simp [Form.parts, hc, hrest]

theorem isInt_digits (n : Nat) : Form.isInt (digits n) := by
  rcases digits_cases n with hzero | ⟨c, rest, hdigits, hdigit, hc⟩
  · rw [hzero]
    rfl
  · have hunsigned := unsigned_of_isWord (isWord_digits n)
    have hparts := parts_eq_singleton
      (forall_mem_digits (p := fun c => c ≠ ':') (by decide +kernel) n)
    have hspaced := forall_mem_digits
      (p := fun c => Form.orGap Char.isDigit c) (by decide +kernel) n
    rw [hdigits] at hunsigned hparts hspaced ⊢
    have hrest : rest.all (Form.orGap Char.isDigit) :=
      List.all_eq_true.mpr fun d hd => hspaced d (List.mem_cons_of_mem c hd)
    have hint : Form.isInt (c :: rest) =
        (Form.isSpaced (fun c => c.isDigit && c != '0') (c :: rest) &&
          [].all Form.isSixtieth) := by
      rw [Form.isInt, hunsigned]
      -- the first four forms begin with the digit zero
      split
      next h => exact absurd (List.cons.inj h).1 hc
      next h => exact absurd (List.cons.inj h).1 hc
      next h => exact absurd (List.cons.inj h).1 hc
      next h => exact absurd (List.cons.inj h).1 hc
      next => rw [hparts]
    simp [hint, Form.isSpaced, hdigit, hc, hrest]

theorem ofPlain_digits (n : Nat) : Tag.ofPlain (digits n) = .int := by
  rw [ofPlain_of_isWord (isWord_digits n), Tag.ofLine, isBool_digits,
    isFloat_eq_false_of_isWord (isWord_digits n), isInt_digits]
  rfl

/-! ## Values -/

theorem natural_digits (n : Nat) : Decimal.natural 10 (digits n) = n := by
  have hvalue := forall_mem_digits
    (p := fun c => (Decimal.digit? 10 c).getD 0 = c.toNat - 48)
    (by decide +kernel) n
  have hfold : Decimal.natural 10 (digits n) =
      (digits n).foldl (fun m c => m * 10 + (c.toNat - 48)) 0 := by
    refine List.foldl_ext _ _ 0 fun m c hc => ?_
    rw [hvalue c hc]
  exact hfold.trans (Decimal.foldl_digits n)

/-- No decimal numeral has a mark of its base. -/
theorem dropMark_ten (s : List Char) : Decimal.dropMark 10 s = s := by
  unfold Decimal.dropMark
  split
  · rfl
  · rfl

theorem integer_digits {n : Nat} (hn : Decimal.Writable n) :
    Decimal.integer 10 (digits n) = .ok n := by
  have hdigits := isHexadecimal_digits n
  have hvalue := forall_mem_digits
    (p := fun c => (Decimal.digit? 10 c).isSome) (by decide +kernel) n
  have htaken := List.takeWhile_eq_self_iff.mpr hvalue
  have hlength : ¬Decimal.digitLimit < (digits n).length := Nat.not_lt.mpr hn
  simp [Decimal.integer, hdigits.bare_eq, hdigits.takeSign_eq, dropMark_ten,
    htaken, hlength, hdigits.nonempty, natural_digits]

theorem readMagnitude_digits {n : Nat} (hn : Decimal.Writable n) :
    readMagnitude (digits n) = .ok n := by
  rcases digits_cases n with hzero | ⟨c, rest, hdigits, -, hc⟩
  · have hvalue := natural_digits n
    rw [hzero] at hvalue ⊢
    rw [← hvalue]
    rfl
  · have hinteger := integer_digits hn
    have hcolon := forall_mem_digits (p := fun c => c ≠ ':')
      (by decide +kernel) n
    have hsingle : (digits n).contains ':' = false := by
      simpa using fun hmem => hcolon ':' hmem rfl
    rw [hdigits] at hinteger hsingle ⊢
    unfold readMagnitude
    split
    next h => cases h
    next h => exact absurd (List.cons.inj h).1 hc
    next h => exact absurd (List.cons.inj h).1 hc
    next h => exact absurd (List.cons.inj h).1 hc
    next h => exact absurd (List.cons.inj h).1 hc
    next => rw [hsingle, hinteger]; rfl

/-- A decimal numeral is read as the number that it is the numeral of. -/
theorem readScalar_digits {n : Nat} (hn : Decimal.Writable n) :
    readScalar (Tag.ofPlain (digits n)) (digits n) = .ok (.int n) := by
  have hspaced : (digits n).filter (· != '_') = digits n :=
    List.filter_eq_self.mpr
      (forall_mem_digits (p := fun c => (c != '_') = true)
        (by decide +kernel) n)
  have hsign : takeSign (digits n) = .ok (false, digits n) := by
    have hplain := forall_mem_digits (p := fun c => c ≠ '-' ∧ c ≠ '+')
      (by decide +kernel) n
    have hnonempty := Decimal.digits_ne_nil n
    unfold takeSign
    split
    next hnil => exact absurd hnil hnonempty
    next hminus =>
      rw [hminus] at hplain
      exact absurd rfl (hplain '-' List.mem_cons_self).1
    next hplus =>
      rw [hplus] at hplain
      exact absurd rfl (hplain '+' List.mem_cons_self).2
    next => rfl
  rw [ofPlain_digits, readScalar, readInt, hspaced, hsign]
  simp only [readMagnitude_digits hn, bind, Except.bind]
  rfl

end TokenSplit.Yaml
