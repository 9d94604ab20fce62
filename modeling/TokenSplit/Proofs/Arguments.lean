import TokenSplit.Arguments
import TokenSplit.Proofs.Result

/-!
# Making ratios

A ratio is made of four values exactly if they are its numbers.  Each value is refused by its own
field, for its type or for its sign; that all parts are zero only shows once all four values are
known to be numbers.
-/

namespace TokenSplit

namespace Ratio

/-- The place of a field where values are given by position. -/
def Field.position : Field → Nat
  | .input => 0
  | .creation => 1
  | .read => 2
  | .threshold => 3

/-- The numbers of the ratio are the given values, which are therefore integers that are not
below zero. -/
def IsMadeOf (r : Ratio) (value : Field → Value) : Prop :=
  ∀ field, value field = .count (r.get field)

theorem isMadeOf_iff {r : Ratio} {value : Field → Value} :
    r.IsMadeOf value ↔
      value .input = .count r.input ∧ value .creation = .count r.creation ∧
        value .read = .count r.read ∧
        value .threshold = .count r.threshold := by
  constructor
  · intro hmade
    exact ⟨hmade .input, hmade .creation, hmade .read, hmade .threshold⟩
  · rintro ⟨hinput, hcreation, hread, hthreshold⟩ field
    cases field with
    | input => exact hinput
    | creation => exact hcreation
    | read => exact hread
    | threshold => exact hthreshold

theorem number_eq_ok_iff {field : Field} {v : Value} {n : Nat} :
    number field v = .ok n ↔ v = .count n := by
  unfold number
  split
  next m =>
    split
    next hm =>
      simp only [reduceCtorEq, Value.scalar.injEq, Scalar.int.injEq, false_iff]
      omega
    next hm =>
      simp only [Except.ok.injEq, Value.scalar.injEq, Scalar.int.injEq]
      omega
  next hint =>
    simp only [reduceCtorEq, false_iff]
    exact hint n

theorem ofNumbers_eq_ok_iff {input creation read threshold : Nat}
    {ratio : Ratio} :
    ofNumbers input creation read threshold = .ok ratio ↔
      input = ratio.input ∧ creation = ratio.creation ∧ read = ratio.read ∧
        threshold = ratio.threshold := by
  unfold ofNumbers
  split
  next hparts =>
    cases ratio
    simp
  next hparts =>
    simp only [reduceCtorEq, false_iff]
    rintro ⟨rfl, rfl, rfl, -⟩
    exact hparts ratio.totalParts_pos

theorem ofNumbers_eq_error_iff {input creation read threshold : Nat}
    {fault : Fault} :
    ofNumbers input creation read threshold = .error fault ↔
      fault = .noParts ∧ input = 0 ∧ creation = 0 ∧ read = 0 := by
  unfold ofNumbers
  split
  next hparts =>
    simp only [reduceCtorEq, false_iff]
    omega
  next hparts =>
    have hzero : input = 0 ∧ creation = 0 ∧ read = 0 := by omega
    rw [Except.error.injEq, and_iff_left hzero, eq_comm]

theorem ofValues_eq_ok_iff {input creation read threshold : Value}
    {r : Ratio} :
    ofValues input creation read threshold = .ok r ↔
      input = .count r.input ∧ creation = .count r.creation ∧
        read = .count r.read ∧ threshold = .count r.threshold := by
  simp only [ofValues, bind_eq_ok_iff, number_eq_ok_iff, ofNumbers_eq_ok_iff]
  constructor
  · rintro ⟨_, hinput, _, hcreation, _, hread, _, hthreshold, rfl, rfl, rfl,
      rfl⟩
    exact ⟨hinput, hcreation, hread, hthreshold⟩
  · rintro ⟨hinput, hcreation, hread, hthreshold⟩
    exact ⟨_, hinput, _, hcreation, _, hread, _, hthreshold, rfl, rfl, rfl,
      rfl⟩

/-! ## What making a ratio refuses -/

/-- A fault of four values that make no ratio: one of them is no natural number, or the parts are
all zero. -/
inductive IsFault : Fault → Prop where
  | notInteger (field : Field) : IsFault (.fieldNotInteger field)
  | negative (field : Field) : IsFault (.fieldNegative field)
  | noParts : IsFault .noParts

theorem IsFault.family_eq {fault : Fault} (h : IsFault fault) :
    fault.family = .value := by
  cases h <;> rfl

theorem isFault_of_number {field : Field} {v : Value} {fault : Fault}
    (h : number field v = .error fault) : IsFault fault := by
  unfold number at h
  split at h
  · split at h
    · cases h
      exact .negative field
    · cases h
  · cases h
    exact .notInteger field

theorem number_ne_noParts (field : Field) (v : Value) :
    number field v ≠ .error .noParts := by
  unfold number
  split
  · split <;> simp
  · simp

theorem isFault_of_ofValues {input creation read threshold : Value}
    {fault : Fault}
    (h : ofValues input creation read threshold = .error fault) :
    IsFault fault := by
  simp only [ofValues, bind_eq_error_iff, ofNumbers_eq_error_iff] at h
  rcases h with h | ⟨_, -, h | ⟨_, -, h | ⟨_, -, h | ⟨_, -, rfl, -⟩⟩⟩⟩
  · exact isFault_of_number h
  · exact isFault_of_number h
  · exact isFault_of_number h
  · exact isFault_of_number h
  · exact .noParts

/-- That the parts are all zero only shows once all four values are known to be numbers. -/
theorem ofValues_eq_noParts_iff {input creation read threshold : Value} :
    ofValues input creation read threshold = .error .noParts ↔
      input = .count 0 ∧ creation = .count 0 ∧ read = .count 0 ∧
        ∃ n : Nat, threshold = .count n := by
  simp only [ofValues, bind_eq_error_iff, number_ne_noParts, false_or,
    number_eq_ok_iff, ofNumbers_eq_error_iff, true_and]
  constructor
  · rintro ⟨_, hinput, _, hcreation, _, hread, n, hthreshold, rfl, rfl, rfl⟩
    exact ⟨hinput, hcreation, hread, n, hthreshold⟩
  · rintro ⟨hinput, hcreation, hread, n, hthreshold⟩
    exact ⟨_, hinput, _, hcreation, _, hread, n, hthreshold, rfl, rfl, rfl⟩

/-- Of natural numbers no single one is refused. -/
theorem ofValues_count (input creation read threshold : Nat) :
    ofValues (.count input) (.count creation) (.count read)
        (.count threshold) = ofNumbers input creation read threshold := by
  have hnumber (field : Field) (n : Nat) : number field (.count n) = .ok n :=
    number_eq_ok_iff.mpr rfl
  simp only [ofValues, hnumber]
  rfl

end Ratio

/-! ## Arguments -/

namespace Arguments

/-- The value that is given for a field of a ratio, or else the standard one. -/
def forField (args : Arguments) (field : Ratio.Field) : Value :=
  (args.get? field.position field.name).getD
    (.count (Ratio.standard.get field))

/-- Where no field needs a value, named values fit if they all belong to a field. -/
theorem check_named_eq_ok_iff {s : Signature} (hnone : s.required = 0)
    {entries : List (String × Value)} {u : Unit} :
    (named entries).check s = .ok u ↔ ∀ e ∈ entries, e.1 ∈ s.fields := by
  simp only [check, hnone]
  cases hfound : entries.find? fun e => !s.fields.contains e.1 with
  | some e =>
      have hmem := List.mem_of_find?_eq_some hfound
      have hunknown := List.find?_some hfound
      simp only [throw_eq_error, error_bind, reduceCtorEq, false_iff]
      intro hall
      simp [hall e hmem] at hunknown
  | none =>
      have hall : ∀ e ∈ entries, e.1 ∈ s.fields := by
        intro e he
        simpa using List.find?_eq_none.mp hfound e he
      exact iff_of_true rfl hall

/-- Arguments that do not fit the fields of a ratio are refused as such. -/
theorem check_ratio_failsAs (args : Arguments) :
    FailsAs .type (args.check Ratio.signature) := by
  cases args with
  | positional values =>
      simp only [check]
      split
      · exact .error rfl
      · exact .ok ()
  | named entries =>
      simp only [check]
      split
      · exact .error rfl
      · exact .ok ()

end Arguments

namespace Ratio

theorem ofArguments_eq_ok_iff {args : Arguments} {r : Ratio} :
    ofArguments args = .ok r ↔
      args.check signature = .ok () ∧ r.IsMadeOf args.forField := by
  rw [isMadeOf_iff, ← ofValues_eq_ok_iff, ofArguments, bind_eq_ok_iff]
  constructor
  · rintro ⟨_, hcheck, hr⟩
    exact ⟨hcheck, hr⟩
  · rintro ⟨hcheck, hr⟩
    exact ⟨(), hcheck, hr⟩

/-- A ratio is refused for its arguments or for its values. -/
theorem ofArguments_error_cases {args : Arguments} {fault : Fault}
    (h : ofArguments args = .error fault) :
    fault.family = .type ∨ IsFault fault := by
  rcases bind_eq_error_iff.mp h with h | ⟨_, -, h⟩
  · exact .inl (args.check_ratio_failsAs fault h)
  · exact .inr (isFault_of_ofValues h)

end Ratio

end TokenSplit
