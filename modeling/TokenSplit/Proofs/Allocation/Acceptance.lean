import TokenSplit.Proofs.Allocation
import TokenSplit.Proofs.Log

/-!
# What is accepted as a token count

A value counts tokens if it is an integer of zero or more, or an index that gives one.  A flag is
refused, and yet counts as one or zero where an index gives it.  Every other value is refused for
its type or for its sign.  That happens before anything is recorded and before an output is looked
at, so a refused count hides what may be wrong with the output.
-/

namespace TokenSplit

namespace Value

/-- The integer that a value counts as where tokens are asked for: a plain integer counts as
itself, and an index as the integer or the flag that it gives. -/
inductive CountsAs : Value → Int → Prop
  | int (n : Int) : CountsAs (.int n) n
  | index (n : Int) : CountsAs (.index (.int n)) n
  | flag (b : Bool) : CountsAs (.index (.bool b)) (if b then 1 else 0)

theorem CountsAs.asIndex_eq {v : Value} {n : Int} (hv : v.CountsAs n) :
    v.asIndex = .ok n := by
  cases hv with
  | int => rfl
  | index => rfl
  | flag b => rfl

theorem CountsAs.unique {v : Value} {m n : Int} (hm : v.CountsAs m)
    (hn : v.CountsAs n) : m = n :=
  Except.ok.inj (hm.asIndex_eq.symm.trans hn.asIndex_eq)

theorem countsAs_of_asIndex {v : Value} {n : Int} (hv : v.asIndex = .ok n) :
    v.CountsAs n := by
  unfold asIndex at hv
  split at hv
  next => cases hv; exact .int n
  next => cases hv
  next => cases hv; exact .index n
  next b => cases hv; exact .flag b
  next => cases hv
  next => cases hv

/-- What cannot be taken as an integer has the wrong type. -/
theorem asIndex_failsAs (v : Value) : FailsAs .type v.asIndex := by
  unfold asIndex
  split
  next => exact .ok _
  next => exact .error rfl
  next => exact .ok _
  next => exact .ok _
  next => exact .error rfl
  next => exact .error rfl

theorem tokens_of_countsAs {v : Value} {n : Int} (hv : v.CountsAs n)
    (hn : 0 ≤ n) : v.tokens = .ok n.toNat := by
  rw [tokens, hv.asIndex_eq]
  exact tokens_int_of_nonneg hn

theorem tokens_of_countsAs_neg {v : Value} {n : Int} (hv : v.CountsAs n)
    (hn : n < 0) : v.tokens = .error .totalNegative := by
  rw [tokens, hv.asIndex_eq]
  exact tokens_int_of_neg hn

/-- A value is a token count, or counts as an integer below zero, or counts as none. -/
theorem tokens_cases (v : Value) :
    (∃ n, v.CountsAs n ∧ 0 ≤ n ∧ v.tokens = .ok n.toNat) ∨
    (∃ n, v.CountsAs n ∧ n < 0 ∧ v.tokens = .error .totalNegative) ∨
    ((¬∃ n, v.CountsAs n) ∧
      ∃ fault, fault.family = .type ∧ v.tokens = .error fault) := by
  cases hindex : v.asIndex with
  | ok n =>
      have hv := countsAs_of_asIndex hindex
      by_cases hn : n < 0
      · exact .inr (.inl ⟨n, hv, hn, tokens_of_countsAs_neg hv hn⟩)
      · have hn := Int.not_lt.mp hn
        exact .inl ⟨n, hv, hn, tokens_of_countsAs hv hn⟩
  | error fault =>
      refine .inr (.inr ⟨?_, fault, v.asIndex_failsAs fault hindex, ?_⟩)
      · rintro ⟨n, hv⟩
        rw [hv.asIndex_eq] at hindex
        cases hindex
      · rw [tokens, hindex]
        rfl

/-- Only integers of zero or more are token counts. -/
theorem countsAs_of_tokens {v : Value} {count : Nat}
    (hv : v.tokens = .ok count) : v.CountsAs count := by
  rcases v.tokens_cases with
    ⟨n, hcounts, hn, htokens⟩ | ⟨n, -, -, htokens⟩ | ⟨-, fault, -, htokens⟩
  · have hcount : n.toNat = count := Except.ok.inj (htokens.symm.trans hv)
    rw [← hcount, Int.toNat_of_nonneg hn]
    exact hcounts
  · rw [htokens] at hv
    cases hv
  · rw [htokens] at hv
    cases hv

end Value

namespace Ratio

/-- A value is split exactly if it counts as an integer of zero or more.  The split is that of the
plain integer, in three plain integers, and it leaves one record if the numbers in it can be
written.  A value that counts as an integer below zero is refused for its value, and one that
counts as no integer for its type; neither leaves a record, and a report refuses them with the same
fault, whatever its output. -/
theorem allocate_accepts_iff (r : Ratio) (v : Value) :
    ((∃ s, (r.allocate v).result = .ok s) ↔ ∃ n, v.CountsAs n ∧ 0 ≤ n) ∧
    (∀ n, v.CountsAs n → 0 ≤ n →
      ∃ s : Split,
        (r.allocate v).result = .ok s ∧
        (r.allocate (.int n)).result = .ok s ∧
        (∃ input creation read : Int,
          s.breakdown = ⟨.int input, .int creation, .int read⟩) ∧
        (Decimal.Writable n → Decimal.Writable r.threshold →
          (r.allocate v).records = [r.record n.toNat s])) ∧
    (∀ n, v.CountsAs n → n < 0 →
      ∃ fault : Fault, fault.family = .value ∧
        r.allocate v = ⟨.error fault, []⟩ ∧
        ∀ output omitEmpty,
          r.report v output omitEmpty = ⟨.error fault, []⟩) ∧
    ((¬∃ n, v.CountsAs n) →
      ∃ fault : Fault, fault.family = .type ∧
        r.allocate v = ⟨.error fault, []⟩ ∧
        ∀ output omitEmpty,
          r.report v output omitEmpty = ⟨.error fault, []⟩) := by
  refine ⟨⟨?_, ?_⟩, ?_, ?_, ?_⟩
  · rintro ⟨s, hs⟩
    rcases v.tokens_cases with
      ⟨n, hv, hn, -⟩ | ⟨-, -, -, htokens⟩ | ⟨-, fault, -, htokens⟩
    · exact ⟨n, hv, hn⟩
    · rw [r.allocate_of_fault htokens] at hs
      cases hs
    · rw [r.allocate_of_fault htokens] at hs
      cases hs
  · rintro ⟨n, hv, hn⟩
    rw [r.allocate_of_tokens (Value.tokens_of_countsAs hv hn)]
    exact ⟨_, rfl⟩
  · intro n hv hn
    rw [r.allocate_of_tokens (Value.tokens_of_countsAs hv hn),
      r.allocate_of_tokens (Value.tokens_int_of_nonneg hn)]
    refine ⟨r.split n.toNat, rfl, rfl, ⟨_, _, _, rfl⟩, ?_⟩
    intro hwritable hthreshold
    rw [← Int.toNat_of_nonneg hn] at hwritable
    exact r.recordsOf_cons_event hwritable hthreshold []
  · intro n hv hn
    have htokens := Value.tokens_of_countsAs_neg hv hn
    exact ⟨.totalNegative, rfl, r.allocate_of_fault htokens,
      r.report_eq_of_fault htokens⟩
  · intro hnone
    rcases v.tokens_cases with
      ⟨n, hv, -, -⟩ | ⟨n, hv, -, -⟩ | ⟨-, fault, hfamily, htokens⟩
    · exact absurd ⟨n, hv⟩ hnone
    · exact absurd ⟨n, hv⟩ hnone
    · exact ⟨fault, hfamily, r.allocate_of_fault htokens,
        r.report_eq_of_fault htokens⟩

/-- A flag is refused, and counts where an index gives it. -/
example :
    (standard.allocate (.bool true)).result.toOption = none ∧
    (standard.allocate (.index (.bool true))).result.toOption =
      some ⟨1, 0, 0⟩ := by
  decide

end Ratio

end TokenSplit
