import Mathlib.Algebra.Order.BigOperators.Group.List
import Mathlib.Algebra.Order.Ring.Nat
import TokenSplit.Proofs.Allocation

/-!
# Many requests instead of one

A count can be split as a whole or in parts that are split one by one.  Flooring loses less than
one token of a bucket in each part, so the parts together fall short of the whole by less than
one token for each of them but the first; what they fall short of goes to the reads.  Parts below
the threshold only lose more.
-/

namespace TokenSplit

namespace Ratio

theorem share_add_share_le_share_add (r : Ratio) (part count count' : Nat) :
    r.share part count + r.share part count' ≤
      r.share part (count + count') := by
  rw [share, share, share, Nat.add_mul]
  exact Nat.div_add_div_le_add_div

/-- Flooring a sum at once gains at most one token over flooring its two parts. -/
theorem share_add_le (r : Ratio) (part count count' : Nat) :
    r.share part (count + count') ≤
      r.share part count + r.share part count' + 1 := by
  rw [share, share, share, Nat.add_mul, Nat.add_div r.totalParts_pos]
  split
  · exact Nat.le_refl _
  · exact Nat.le_succ _

theorem sum_share_le (r : Ratio) (part : Nat) (counts : List Nat) :
    (counts.map (r.share part)).sum ≤ r.share part counts.sum := by
  induction counts with
  | nil => exact Nat.zero_le _
  | cons count counts ih =>
      rw [List.map_cons, List.sum_cons, List.sum_cons]
      calc
        r.share part count + (counts.map (r.share part)).sum ≤
            r.share part count + r.share part counts.sum :=
          Nat.add_le_add_left ih _
        _ ≤ r.share part (count + counts.sum) :=
          r.share_add_share_le_share_add part count counts.sum

/-- Every part but the first costs at most one token. -/
theorem share_sum_cons_le (r : Ratio) (part count : Nat) (counts : List Nat) :
    r.share part (count :: counts).sum ≤
      ((count :: counts).map (r.share part)).sum + counts.length := by
  induction counts generalizing count with
  | nil => simp
  | cons next counts ih =>
      have hfirst := r.share_add_le part count (next :: counts).sum
      have hrest := ih next
      have hcounts : (count :: next :: counts).sum =
          count + (next :: counts).sum := List.sum_cons
      have hshares : ((count :: next :: counts).map (r.share part)).sum =
          r.share part count + ((next :: counts).map (r.share part)).sum :=
        List.sum_cons
      rw [hcounts, hshares, List.length_cons]
      omega

theorem creation_split_le_share (r : Ratio) (count : Nat) :
    (r.split count).creation ≤ r.share r.creation count := by
  by_cases hcount : count < r.threshold
  · rw [r.split_of_lt hcount]
    exact Nat.zero_le _
  · rw [r.split_of_le (Nat.not_lt.mp hcount)]

/-- Cache creation of the parts never exceeds that of the whole, wherever the threshold lies. -/
theorem sum_creation_split_le (r : Ratio) (counts : List Nat) :
    ((counts.map r.split).map Split.creation).sum ≤
      (r.split counts.sum).creation := by
  rw [List.map_map]
  by_cases hsum : counts.sum < r.threshold
  · -- No part reaches the threshold either.
    have hnone : ∀ count ∈ counts, (Split.creation ∘ r.split) count = 0 := by
      intro count hmem
      have hle := List.single_le_sum (fun n _ => Nat.zero_le n) count hmem
      have hcount : count < r.threshold := by omega
      rw [Function.comp_apply, r.split_of_lt hcount]
      rfl
    have hzero : (counts.map (Split.creation ∘ r.split)).sum = 0 :=
      List.sum_eq_zero fun n hn => by
        obtain ⟨count, hmem, rfl⟩ := List.mem_map.mp hn
        exact hnone count hmem
    omega
  · have hshares : (counts.map (Split.creation ∘ r.split)).sum ≤
        (counts.map (r.share r.creation)).sum :=
      List.sum_le_sum fun count _ => r.creation_split_le_share count
    rw [r.split_of_le (Nat.not_lt.mp hsum)]
    exact hshares.trans (r.sum_share_le r.creation counts)

theorem sum_total_split (r : Ratio) (counts : List Nat) :
    ((counts.map r.split).map Split.input).sum +
        ((counts.map r.split).map Split.creation).sum +
          ((counts.map r.split).map Split.read).sum = counts.sum := by
  induction counts with
  | nil => rfl
  | cons count counts ih =>
      have hfirst := r.total_split count
      simp only [Split.total] at hfirst
      simp only [List.map_cons, List.sum_cons]
      omega

theorem mapM_allocate (r : Ratio) (counts : List Nat) :
    counts.mapM (fun count => (r.allocate (.count count)).result) =
      .ok (counts.map r.split) := by
  induction counts with
  | nil => rfl
  | cons count counts ih =>
      rw [List.mapM_cons, ih, r.result_allocate_count]
      rfl

/-- Parts that reach the threshold have floored shares of input and creation. -/
theorem map_split_of_le (r : Ratio) {counts : List Nat}
    (hcounts : ∀ count ∈ counts, r.threshold ≤ count) :
    (counts.map r.split).map Split.input = counts.map (r.share r.input) ∧
      (counts.map r.split).map Split.creation =
        counts.map (r.share r.creation) := by
  rw [List.map_map, List.map_map]
  constructor
  · apply List.map_congr_left
    intro count hmem
    rw [Function.comp_apply, r.split_of_le (hcounts count hmem)]
  · apply List.map_congr_left
    intro count hmem
    rw [Function.comp_apply, r.split_of_le (hcounts count hmem)]

/-- However a count is cut into parts, cache creation of the parts never exceeds that of the
whole.  If there is a part and all parts reach the threshold, then of input and of creation the
parts together lose at most one token for each part but the first, and the reads gain what these
two lose. -/
theorem allocate_requests (r : Ratio) (counts : List Nat) :
    ∃ (parts : List Split) (whole : Split),
      counts.mapM (fun count => (r.allocate (.count count)).result) =
        .ok parts ∧
      (r.allocate (.count counts.sum)).result = .ok whole ∧
      (parts.map Split.creation).sum ≤ whole.creation ∧
      (counts ≠ [] → (∀ count ∈ counts, r.threshold ≤ count) →
        ((parts.map Split.input).sum ≤ whole.input ∧
          whole.input ≤
            (parts.map Split.input).sum + (counts.length - 1)) ∧
        ((parts.map Split.creation).sum ≤ whole.creation ∧
          whole.creation ≤
            (parts.map Split.creation).sum + (counts.length - 1)) ∧
        (whole.read ≤ (parts.map Split.read).sum ∧
          (parts.map Split.read).sum ≤
            whole.read + 2 * (counts.length - 1))) := by
  refine ⟨counts.map r.split, r.split counts.sum, r.mapM_allocate counts, ?_,
    r.sum_creation_split_le counts, ?_⟩
  · rw [r.allocate_of_tokens (Value.tokens_count counts.sum)]
  intro hne hcounts
  obtain ⟨first, rest, rfl⟩ := List.exists_cons_of_ne_nil hne
  have hsum : r.threshold ≤ (first :: rest).sum := by
    have hfirst := hcounts first List.mem_cons_self
    rw [List.sum_cons]
    omega
  have hparts := r.sum_total_split (first :: rest)
  have hwhole := r.total_split (first :: rest).sum
  obtain ⟨hinputs, hcreations⟩ := r.map_split_of_le hcounts
  have hinput := r.sum_share_le r.input (first :: rest)
  have hinput' := r.share_sum_cons_le r.input first rest
  have hcreation := r.sum_share_le r.creation (first :: rest)
  have hcreation' := r.share_sum_cons_le r.creation first rest
  rw [← hinputs] at hinput hinput'
  rw [← hcreations] at hcreation hcreation'
  rw [r.split_of_le hsum] at hwhole ⊢
  simp only [Split.total] at hwhole
  rw [List.length_cons, Nat.add_sub_cancel]
  dsimp only
  exact ⟨⟨hinput, hinput'⟩, ⟨hcreation, hcreation'⟩, by omega, by omega⟩

/-- Two requests of a hundred tokens each are read with one token more than one of two hundred. -/
theorem allocate_requests_two :
    ∃ (parts : List Split) (whole : Split),
      [100, 100].mapM
          (fun count => (Ratio.standard.allocate (.count count)).result) =
        .ok parts ∧
      (Ratio.standard.allocate (.count 200)).result = .ok whole ∧
      (parts.map Split.read).sum = 180 ∧ whole.read = 179 ∧
      (parts.map Split.read).sum ≤ whole.read + 2 := by
  obtain ⟨parts, whole, hparts, hwhole, -, hbounds⟩ :=
    allocate_requests Ratio.standard [100, 100]
  have hreads := (hbounds (by decide) (by decide)).2.2.2
  have hwhole' : whole = ⟨7, 14, 179⟩ := (Except.ok.inj hwhole).symm
  have hparts' : parts = [⟨3, 7, 90⟩, ⟨3, 7, 90⟩] :=
    (Except.ok.inj hparts).symm
  subst hwhole' hparts'
  exact ⟨_, _, hparts, hwhole, rfl, rfl, hreads⟩

end Ratio

end TokenSplit
