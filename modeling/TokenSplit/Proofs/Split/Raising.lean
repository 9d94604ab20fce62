import TokenSplit.Proofs.Session.Step
import TokenSplit.Proofs.Split.Rounding

/-!
# Raising one number of a ratio

Each number of a ratio moves tokens towards its own bucket.  More parts of a kind lengthen the
cycle, so the shares of the other kinds shrink while its own share grows; the reads, which are not
divided but left over, can gain a token by rounding where another part is raised.  A higher
threshold only ever moves tokens to the plain input.
-/

namespace TokenSplit

namespace Ratio

/-- Parts that are no smaller than those of a ratio are not all zero either. -/
theorem parts_pos_of_le (r : Ratio) {input creation read : Nat}
    (hinput : r.input ≤ input) (hcreation : r.creation ≤ creation)
    (hread : r.read ≤ read) : 0 < input + creation + read :=
  Nat.lt_of_lt_of_le r.parts_pos
    (Nat.add_le_add (Nat.add_le_add hinput hcreation) hread)

variable (r : Ratio) (field : Field) (k : Nat)

/-- The ratio with one of its numbers raised. -/
def raise : Ratio :=
  match field with
  | .input => ⟨r.input + k, r.creation, r.read, r.threshold,
      r.parts_pos_of_le (Nat.le_add_right _ _) (Nat.le_refl _) (Nat.le_refl _)⟩
  | .creation => ⟨r.input, r.creation + k, r.read, r.threshold,
      r.parts_pos_of_le (Nat.le_refl _) (Nat.le_add_right _ _) (Nat.le_refl _)⟩
  | .read => ⟨r.input, r.creation, r.read + k, r.threshold,
      r.parts_pos_of_le (Nat.le_refl _) (Nat.le_refl _) (Nat.le_add_right _ _)⟩
  | .threshold => ⟨r.input, r.creation, r.read, r.threshold + k, r.parts_pos⟩

theorem get_raise (other : Field) :
    (r.raise field k).get other =
      if other = field then r.get field + k else r.get other := by
  cases field <;> cases other <;> rfl

theorem get_raise_of_ne {other : Field} (hother : other ≠ field) :
    (r.raise field k).get other = r.get other := by
  rw [get_raise, if_neg hother]

/-- Replacing a number by a larger one raises it; nothing else of the ratio has to be given. -/
theorem replaceRatio_raise :
    Item.replaceRatio r [(field.name, .count (r.get field + k))] =
      .ok (r.raise field k) := by
  have hvalue (other : Field) :
      [(field.name, Value.count (r.get field + k))].lookup other.name =
        if other = field then some (Value.count (r.get field + k))
        else none := by
    cases field <;> cases other <;> rfl
  have hknown : field.name ∈ Field.all.map Field.name := by
    cases field <;> decide
  rw [Item.replaceRatio_eq_ok_iff]
  constructor
  · intro e he
    rw [List.mem_singleton.mp he]
    exact hknown
  · intro other
    dsimp only
    rw [hvalue, get_raise]
    split <;> rfl

/-! ## Shares of a raised ratio -/

variable {field}

theorem totalParts_raise (hfield : field ≠ .threshold) :
    (r.raise field k).totalParts = r.totalParts + k := by
  cases field with
  | threshold => exact absurd rfl hfield
  | _ =>
      simp only [totalParts, raise]
      omega

theorem threshold_raise (hfield : field ≠ .threshold) :
    (r.raise field k).threshold = r.threshold :=
  r.get_raise_of_ne field k hfield.symm

/-- With a part raised, what the other parts have is less of the whole. -/
theorem share_raise_le (hfield : field ≠ .threshold) (part count : Nat) :
    (r.raise field k).share part count ≤ r.share part count := by
  apply share_le_share
  apply Nat.mul_le_mul_left
  rw [r.totalParts_raise k hfield]
  exact Nat.le_add_right _ _

/-- Parts that are raised are more of the whole, although the whole is raised as well. -/
theorem share_le_share_raise (hfield : field ≠ .threshold) {part : Nat}
    (hpart : part ≤ r.totalParts) (count : Nat) :
    r.share part count ≤ (r.raise field k).share (part + k) count := by
  apply share_le_share
  rw [r.totalParts_raise k hfield, Nat.mul_assoc, Nat.mul_assoc]
  apply Nat.mul_le_mul_left
  rw [Nat.mul_add, Nat.add_mul, Nat.mul_comm k]
  exact Nat.add_le_add_left (Nat.mul_le_mul_right k hpart) _

/-! ## Buckets of a raised ratio -/

theorem split_raise_of_lt (hfield : field ≠ .threshold) {count : Nat}
    (hcount : count < r.threshold) :
    (r.raise field k).split count = r.split count := by
  rw [split_of_lt, split_of_lt]
  · exact hcount
  · rwa [r.threshold_raise k hfield]

/-- Where another part is raised, the reads gain at most one token. -/
theorem read_split_raise_le (hfield : field ≠ .threshold)
    (hother : Field.read ≠ field) (count : Nat) :
    ((r.raise field k).split count).read ≤ (r.split count).read + 1 := by
  by_cases hlow : count < r.threshold
  · rw [r.split_raise_of_lt k hfield hlow]
    exact Nat.le_succ _
  · have hhigh : r.threshold ≤ count := Nat.not_lt.mp hlow
    have hread : (r.raise field k).read = r.read :=
      r.get_raise_of_ne field k hother
    apply read_le_read_succ _ hhigh
    · rw [hread, r.totalParts_raise k hfield]
      exact Nat.mul_le_mul_left _ (Nat.le_add_right _ _)
    · rwa [r.threshold_raise k hfield]

theorem split_raise_read (count : Nat) :
    ((r.raise .read k).split count).input ≤ (r.split count).input ∧
      ((r.raise .read k).split count).creation ≤ (r.split count).creation ∧
      (r.split count).read ≤ ((r.raise .read k).split count).read := by
  have hfield : Field.read ≠ .threshold := by decide
  by_cases hlow : count < r.threshold
  · rw [r.split_raise_of_lt k hfield hlow]
    exact ⟨Nat.le_refl _, Nat.le_refl _, Nat.le_refl _⟩
  · have hhigh : r.threshold ≤ count := Nat.not_lt.mp hlow
    have hinput := r.share_raise_le k hfield r.input count
    have hcreation := r.share_raise_le k hfield r.creation count
    have hraised : (r.raise .read k).threshold ≤ count := hhigh
    have htotal := r.total_split count
    have htotal' := (r.raise .read k).total_split count
    rw [r.split_of_le hhigh] at htotal ⊢
    rw [split_of_le _ hraised] at htotal' ⊢
    refine ⟨hinput, hcreation, ?_⟩
    -- The reads are what the other two buckets leave of the same count.
    dsimp only [Split.total, raise] at htotal htotal' hinput hcreation ⊢
    omega

theorem split_raise_creation (count : Nat) :
    (r.split count).creation ≤
        ((r.raise .creation k).split count).creation ∧
      ((r.raise .creation k).split count).input ≤ (r.split count).input := by
  have hfield : Field.creation ≠ .threshold := by decide
  by_cases hlow : count < r.threshold
  · rw [r.split_raise_of_lt k hfield hlow]
    exact ⟨Nat.le_refl _, Nat.le_refl _⟩
  · have hhigh : r.threshold ≤ count := Nat.not_lt.mp hlow
    have hraised : (r.raise .creation k).threshold ≤ count := hhigh
    rw [r.split_of_le hhigh, split_of_le _ hraised]
    exact ⟨r.share_le_share_raise k hfield r.creation_le_totalParts count,
      r.share_raise_le k hfield r.input count⟩

theorem split_raise_input (count : Nat) :
    (r.split count).input ≤ ((r.raise .input k).split count).input ∧
      ((r.raise .input k).split count).creation ≤
        (r.split count).creation := by
  have hfield : Field.input ≠ .threshold := by decide
  by_cases hlow : count < r.threshold
  · rw [r.split_raise_of_lt k hfield hlow]
    exact ⟨Nat.le_refl _, Nat.le_refl _⟩
  · have hhigh : r.threshold ≤ count := Nat.not_lt.mp hlow
    have hraised : (r.raise .input k).threshold ≤ count := hhigh
    rw [r.split_of_le hhigh, split_of_le _ hraised]
    exact ⟨r.share_le_share_raise k hfield r.input_le_totalParts count,
      r.share_raise_le k hfield r.creation count⟩

/-- A higher threshold leaves a split alone or makes all of it plain input. -/
theorem split_raise_threshold (count : Nat) :
    (r.raise .threshold k).split count = r.split count ∨
      (r.raise .threshold k).split count = Split.plain count := by
  by_cases hlow : count < (r.raise .threshold k).threshold
  · exact .inr (split_of_lt _ hlow)
  · have hraised : r.threshold + k ≤ count := Nat.not_lt.mp hlow
    have hhigh : r.threshold ≤ count := by omega
    left
    rw [r.split_of_le hhigh, split_of_le _ hraised]
    rfl

/-- What raising one number of a ratio does to the split of a count.  More parts for reads never
raise input or creation and never lower the reads.  More parts for creation never lower creation
and never raise input, more parts for input never lower input and never raise creation, and both
raise the reads by at most one token.  A higher threshold never lowers input and never raises
creation or reads. -/
theorem allocate_raise (r : Ratio) (k count : Nat) :
    ∃ (s : Split) (raised : Field → Split),
      (r.allocate (.count count)).result = .ok s ∧
      (∀ field,
        Item.replaceRatio r [(field.name, .count (r.get field + k))] =
          .ok (r.raise field k) ∧
        ((r.raise field k).allocate (.count count)).result =
          .ok (raised field)) ∧
      ((raised .read).input ≤ s.input ∧
        (raised .read).creation ≤ s.creation ∧
        s.read ≤ (raised .read).read) ∧
      (s.creation ≤ (raised .creation).creation ∧
        (raised .creation).input ≤ s.input ∧
        (raised .creation).read ≤ s.read + 1) ∧
      (s.input ≤ (raised .input).input ∧
        (raised .input).creation ≤ s.creation ∧
        (raised .input).read ≤ s.read + 1) ∧
      (s.input ≤ (raised .threshold).input ∧
        (raised .threshold).creation ≤ s.creation ∧
        (raised .threshold).read ≤ s.read) := by
  refine ⟨r.split count, fun field => (r.raise field k).split count,
    r.result_allocate_count count, ?_, r.split_raise_read k count, ?_, ?_, ?_⟩
  · intro field
    exact ⟨r.replaceRatio_raise field k, result_allocate_count _ count⟩
  · obtain ⟨hcreation, hinput⟩ := r.split_raise_creation k count
    exact ⟨hcreation, hinput,
      r.read_split_raise_le k (by decide) (by decide) count⟩
  · obtain ⟨hinput, hcreation⟩ := r.split_raise_input k count
    exact ⟨hinput, hcreation,
      r.read_split_raise_le k (by decide) (by decide) count⟩
  · rcases r.split_raise_threshold k count with hsame | hplain
    · dsimp only
      rw [hsame]
      exact ⟨Nat.le_refl _, Nat.le_refl _, Nat.le_refl _⟩
    · dsimp only
      rw [hplain]
      exact ⟨r.input_split_le count, Nat.zero_le _, Nat.zero_le _⟩

end Ratio

end TokenSplit
