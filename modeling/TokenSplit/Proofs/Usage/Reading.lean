import TokenSplit.Proofs.Usage

/-!
# Reading a usage back

A usage leaves out nothing but zeros: what is read back of it is the split and the output that it
was made of, whether or not empty cache entries are left out.  The two cache entries stand or fall
together, and a given output is never taken for none, not even an output of zero.
-/

namespace TokenSplit

namespace Usage

/-- The integers under the names of the input side, as far as they are there. -/
def inputSide (u : Usage) : List Int :=
  [inputKey, creationKey, readKey].filterMap fun key =>
    (u.get? key).bind Value.integer?

end Usage

namespace Split

variable (s : Split) (output omitEmpty : Value)

/-- The cache entries are shown, be it with zeros. -/
def ShowsCache : Prop :=
  s.HasCache ∨ omitEmpty.isTrue = false

instance : Decidable (s.ShowsCache omitEmpty) :=
  inferInstanceAs (Decidable (_ ∨ _))

theorem not_showsCache_iff :
    ¬s.ShowsCache omitEmpty ↔
      omitEmpty.isTrue = true ∧ s.creation = 0 ∧ s.read = 0 := by
  simp only [ShowsCache, HasCache, not_or, Nat.not_lt, Nat.le_zero,
    Bool.not_eq_false]
  exact and_comm

/-! ## Looking names up -/

theorem get?_input :
    Usage.get? ⟨s.entries output omitEmpty⟩ Usage.inputKey =
      some (.count s.input) := rfl

theorem get?_creation :
    Usage.get? ⟨s.entries output omitEmpty⟩ Usage.creationKey =
      if s.ShowsCache omitEmpty then some (.count s.creation) else none := by
  unfold ShowsCache
  by_cases hshown : s.HasCache ∨ omitEmpty.isTrue = false
  · simp only [entries, hshown, if_true]
    rfl
  · cases houtput : output.isNull <;>
      · simp only [entries, hshown, houtput, if_false]
        rfl

theorem get?_read :
    Usage.get? ⟨s.entries output omitEmpty⟩ Usage.readKey =
      if s.ShowsCache omitEmpty then some (.count s.read) else none := by
  unfold ShowsCache
  by_cases hshown : s.HasCache ∨ omitEmpty.isTrue = false
  · simp only [entries, hshown, if_true]
    rfl
  · cases houtput : output.isNull <;>
      · simp only [entries, hshown, houtput, if_false]
        rfl

theorem get?_output :
    Usage.get? ⟨s.entries output omitEmpty⟩ Usage.outputKey =
      if output.isNull then none else some output := by
  by_cases hshown : s.HasCache ∨ omitEmpty.isTrue = false <;>
    cases houtput : output.isNull <;>
      · simp only [entries, hshown, houtput, if_true, if_false]
        rfl

/-- Cache entries that are left out hold no tokens, which is what their absence is read as. -/
theorem breakdown?_entries :
    Usage.breakdown? ⟨s.entries output omitEmpty⟩ = some s.breakdown := by
  have hread : Usage.breakdown? ⟨s.entries output omitEmpty⟩ =
      some ⟨.count s.input,
        (if s.ShowsCache omitEmpty then some (.count s.creation)
          else none).getD (.count 0),
        (if s.ShowsCache omitEmpty then some (.count s.read)
          else none).getD (.count 0)⟩ := by
    rw [← get?_creation s output, ← get?_read s output]
    rfl
  rw [hread]
  by_cases hshown : s.ShowsCache omitEmpty
  · rw [if_pos hshown, if_pos hshown]
    rfl
  · obtain ⟨-, hcreation, hzero⟩ := (s.not_showsCache_iff omitEmpty).mp hshown
    rw [if_neg hshown, if_neg hshown, breakdown, hcreation, hzero]
    rfl

theorem output_entries : Usage.output ⟨s.entries output omitEmpty⟩ = output := by
  rw [Usage.output, get?_output]
  cases output with
  | scalar v => cases v <;> rfl
  | _ => rfl

/-- What is left out of the input side does not change its sum. -/
theorem inputSide_entries :
    (Usage.inputSide ⟨s.entries output omitEmpty⟩).foldl (· + ·) 0 =
      (s.total : Int) := by
  simp only [Usage.inputSide, List.filterMap_cons, List.filterMap_nil,
    get?_input, get?_creation, get?_read]
  by_cases hshown : s.ShowsCache omitEmpty
  · simp [hshown, Value.integer?, total]
  · obtain ⟨-, hcreation, hread⟩ := (s.not_showsCache_iff omitEmpty).mp hshown
    simp [hshown, Value.integer?, total, hcreation, hread]

/-- The names of a usage, of which those of the cache are left out only together. -/
theorem keys_entries_of_omitted :
    Usage.keys ⟨s.entries output omitEmpty⟩ =
      Usage.inputKey ::
        (if omitEmpty.isTrue = true ∧ s.creation = 0 ∧ s.read = 0 then []
          else [Usage.creationKey, Usage.readKey]) ++
        (if output.isNull then [] else [Usage.outputKey]) := by
  rw [keys_entries]
  by_cases hshown : s.ShowsCache omitEmpty
  · have hkept :
        ¬(omitEmpty.isTrue = true ∧ s.creation = 0 ∧ s.read = 0) :=
      fun h => (s.not_showsCache_iff omitEmpty).mpr h hshown
    rw [if_neg hkept]
    exact congrArg (Usage.inputKey :: · ++ _) (if_pos hshown)
  · have hleft := (s.not_showsCache_iff omitEmpty).mp hshown
    rw [if_pos hleft]
    exact congrArg (Usage.inputKey :: · ++ _) (if_neg hshown)

/-- A split with an output that is none or not below zero is reported, and the usage reads back as
that split and that output, whether or not empty cache entries are to be left out.  Its input side
sums to the count that was split.  It names the input, then the two buckets of the cache unless
they may be left out and hold no tokens, then the output if one is given. -/
theorem usage_reads_back (s : Split) {output : Value}
    (houtput : output.IsOutput) (omitEmpty : Value) :
    ∃ usage,
      s.breakdown.usage output omitEmpty = .ok usage ∧
      usage.breakdown? = some s.breakdown ∧
      usage.output = output ∧
      usage.inputSide.foldl (· + ·) 0 = (s.total : Int) ∧
      usage.keys =
        Usage.inputKey ::
          (if omitEmpty.isTrue = true ∧ s.creation = 0 ∧ s.read = 0 then []
            else [Usage.creationKey, Usage.readKey]) ++
          (if output.isNull then [] else [Usage.outputKey]) :=
  ⟨_, s.usage_eq_ok_iff.mpr ⟨houtput, rfl⟩,
    s.breakdown?_entries output omitEmpty, s.output_entries output omitEmpty,
    s.inputSide_entries output omitEmpty,
    s.keys_entries_of_omitted output omitEmpty⟩

/-- An output of zero beside an empty cache is still read back as an output. -/
theorem usage_reads_back_zero_output :
    ∃ usage,
      (Split.plain 7).breakdown.usage (.int 0) (.bool true) = .ok usage ∧
      usage.breakdown? = some (Split.plain 7).breakdown ∧
      usage.output = .int 0 ∧
      usage.keys = ["input_tokens", "output_tokens"] := by
  have hzero : (Value.int 0).IsOutput := Int.le_refl 0
  obtain ⟨usage, husage, hsplit, houtput, -, hkeys⟩ :=
    usage_reads_back (Split.plain 7) hzero (.bool true)
  exact ⟨usage, husage, hsplit, houtput, hkeys⟩

end Split

end TokenSplit
