import TokenSplit.Proofs.Split.Alike
import TokenSplit.Proofs.Usage

/-!
# When the cache is reported

A split holds cache tokens just where its input falls short of the count.  That it does follows
from the ratio and the count alone, for a ratio with a cache part never takes all of a count that
it splits for input: even if both shares are floored to zero, the reads get what is left over.  So
a usage without empty entries names the cache from the threshold on, unless all parts are input or
there is no token at all.
-/

namespace TokenSplit

namespace Split

theorem hasCache_iff (s : Split) : s.HasCache ↔ s.input < s.total := by
  simp only [HasCache, total]
  omega

theorem not_hasCache_plain (count : Nat) : ¬(plain count).HasCache := by
  simp [HasCache, plain]

end Split

namespace Ratio

/-- A count of no tokens, or below the threshold, is not split. -/
theorem lt_max_threshold_iff (r : Ratio) (count : Nat) :
    count < max r.threshold 1 ↔ ¬(0 < count ∧ r.threshold ≤ count) := by
  omega

theorem not_allInput_iff (r : Ratio) :
    ¬r.AllInput ↔ 0 < r.creation ∨ 0 < r.read := by
  simp only [AllInput]
  omega

/-- Whether a split holds cache tokens is decided by the ratio and the count, not by rounding. -/
theorem hasCache_split_iff (r : Ratio) (count : Nat) :
    (r.split count).HasCache ↔
      0 < count ∧ r.threshold ≤ count ∧ (0 < r.creation ∨ 0 < r.read) := by
  rw [← and_assoc, ← r.not_allInput_iff]
  by_cases hlow : count < max r.threshold 1
  · rw [r.split_of_lt_max hlow]
    exact iff_of_false (Split.not_hasCache_plain count) fun h =>
      (r.lt_max_threshold_iff count).mp hlow h.1
  · have hsplit : 0 < count ∧ r.threshold ≤ count :=
      Decidable.not_not.mp (mt (r.lt_max_threshold_iff count).mpr hlow)
    rw [and_iff_right hsplit]
    by_cases hall : r.AllInput
    · rw [r.split_of_allInput hall]
      exact iff_of_false (Split.not_hasCache_plain count) fun h => h hall
    · have hinput := r.share_input_lt hall hsplit.1
      rw [Split.hasCache_iff, r.total_split, r.split_of_le hsplit.2]
      exact iff_of_true hinput hall

/-- The split of a count holds cache tokens just where there is a token to split, the count
reaches the threshold and the ratio has a part for the cache.  With empty entries left out, a usage
of the split exists for exactly the outputs that are not below zero, and it names the two cache
entries under just that condition. -/
theorem allocate_hasCache_iff (r : Ratio) (count : Nat) :
    ∃ (s : Split) (cached : Bool),
      (r.allocate (.count count)).result = .ok s ∧
      s.breakdown.hasCache = .ok cached ∧
      (cached = true ↔
        0 < count ∧ r.threshold ≤ count ∧ (0 < r.creation ∨ 0 < r.read)) ∧
      ∀ output omitEmpty : Value, omitEmpty.isTrue = true →
        ((∃ usage, s.breakdown.usage output omitEmpty = .ok usage) ↔
          output.IsOutput) ∧
        ∀ usage, s.breakdown.usage output omitEmpty = .ok usage →
          ∀ key ∈ [Usage.creationKey, Usage.readKey],
            key ∈ usage.keys ↔
              0 < count ∧ r.threshold ≤ count ∧
                (0 < r.creation ∨ 0 < r.read) := by
  refine ⟨r.split count, decide (r.split count).HasCache,
    r.result_allocate_count count, Split.hasCache_breakdown _, ?_, ?_⟩
  · rw [decide_eq_true_iff, r.hasCache_split_iff]
  intro output omitEmpty homit
  constructor
  · constructor
    · rintro ⟨usage, husage⟩
      exact ((Split.usage_eq_ok_iff _).mp husage).1
    · intro houtput
      exact ⟨_, (Split.usage_eq_ok_iff _).mpr ⟨houtput, rfl⟩⟩
  · intro usage husage key hkey
    have hentries := ((Split.usage_eq_ok_iff _).mp husage).2
    have hnot : ¬omitEmpty.isTrue = false := by
      rw [homit]
      decide
    rw [hentries, Split.mem_keys_entries_iff _ _ _ hkey, or_iff_left hnot,
      r.hasCache_split_iff]

/-- A single token is too little for either share of two equal parts, so it counts as read from a
cache that the ratio gives no part for reads, and the usage names the cache. -/
theorem allocate_hasCache_one :
    ∃ (s : Split) (usage : Usage),
      ((⟨1, 1, 0, 0, by decide⟩ : Ratio).allocate (.count 1)).result = .ok s ∧
      s = ⟨0, 0, 1⟩ ∧
      s.breakdown.usage (.int 0) (.bool true) = .ok usage ∧
      Usage.creationKey ∈ usage.keys ∧ Usage.readKey ∈ usage.keys := by
  let half : Ratio := ⟨1, 1, 0, 0, by decide⟩
  have hcache : 0 < 1 ∧ half.threshold ≤ 1 ∧
      (0 < half.creation ∨ 0 < half.read) := by decide
  obtain ⟨s, cached, hs, -, -, hreported⟩ := allocate_hasCache_iff half 1
  obtain ⟨hexists, hnamed⟩ := hreported (.int 0) (.bool true) rfl
  obtain ⟨usage, husage⟩ := hexists.mpr (Int.le_refl 0)
  have hsplit : s = half.split 1 :=
    Except.ok.inj (hs.symm.trans (half.result_allocate_count 1))
  have hvalue : half.split 1 = ⟨0, 0, 1⟩ := by decide
  exact ⟨s, usage, hs, hsplit.trans hvalue, husage,
    (hnamed usage husage _ (by decide)).mpr hcache,
    (hnamed usage husage _ (by decide)).mpr hcache⟩

end Ratio

end TokenSplit
