import TokenSplit.Proofs.Decimal

/-!
# Digits in groups

Digits are grouped by threes from the right, so only the first group can be short.  The commas
between the groups are all that is added: without them the digits are what they were.
-/

namespace TokenSplit.Decimal

/-- Digits in groups of three with commas between the groups.  Only the first group may be
short. -/
inductive IsGrouped : List Char → Prop where
  | first {ds : List Char} (hne : ds ≠ []) (hlength : ds.length ≤ 3)
      (hdigits : ∀ c ∈ ds, c.isDigit) : IsGrouped ds
  | next {s : List Char} (hs : IsGrouped s) {a b c : Char} (ha : a.isDigit)
      (hb : b.isDigit) (hc : c.isDigit) : IsGrouped (s ++ [',', a, b, c])

/-- A text without its commas. -/
def ungrouped (s : List Char) : List Char :=
  s.filter (· != ',')

theorem ungrouped_of_digits {ds : List Char} (hdigits : ∀ c ∈ ds, c.isDigit) :
    ungrouped ds = ds := by
  refine List.filter_eq_self.mpr ?_
  intro c hc
  rw [bne_iff_ne]
  rintro rfl
  exact absurd (hdigits ',' hc) (by decide)

theorem ungrouped_append (s t : List Char) :
    ungrouped (s ++ t) = ungrouped s ++ ungrouped t :=
  List.filter_append s t

theorem ungrouped_reverse (s : List Char) :
    ungrouped s.reverse = (ungrouped s).reverse :=
  List.filter_reverse

theorem ungrouped_separate {ds : List Char} (hdigits : ∀ c ∈ ds, c.isDigit) :
    ungrouped (separate ds) = ds := by
  fun_induction separate ds with
  | case1 a b c d rest ih =>
      have hgroup : ∀ e ∈ [a, b, c], e.isDigit := fun e he =>
        hdigits e (List.mem_append_left (d :: rest) he)
      have hrest : ∀ e ∈ d :: rest, e.isDigit := fun e he =>
        hdigits e (List.mem_append_right [a, b, c] he)
      calc
        ungrouped ([a, b, c] ++ ([','] ++ separate (d :: rest)))
          = ungrouped [a, b, c] ++ ungrouped (separate (d :: rest)) := by
            rw [ungrouped_append, ungrouped_append]
            rfl
        _ = [a, b, c] ++ d :: rest := by
            rw [ungrouped_of_digits hgroup, ih hrest]
  | case2 short => exact ungrouped_of_digits hdigits

/-- Groups from the right, read from the left. -/
theorem isGrouped_separate {ds : List Char} (hne : ds ≠ [])
    (hdigits : ∀ c ∈ ds, c.isDigit) : IsGrouped (separate ds).reverse := by
  fun_induction separate ds with
  | case1 a b c d rest ih =>
      simp only [List.forall_mem_cons] at hdigits
      obtain ⟨ha, hb, hc, hrest⟩ := hdigits
      -- read from the left, the first three digits are the last group
      have hgroups := ih (List.cons_ne_nil _ _) (List.forall_mem_cons.mpr hrest)
      simpa using hgroups.next hc hb ha
  | case2 short hshort =>
      refine .first (mt List.reverse_eq_nil_iff.mp hne) ?_ ?_
      · rw [List.length_reverse]
        rcases short with _ | ⟨a, _ | ⟨b, _ | ⟨c, _ | ⟨d, rest⟩⟩⟩⟩
        · exact absurd rfl hne
        · exact Nat.le_of_ble_eq_true rfl
        · exact Nat.le_of_ble_eq_true rfl
        · exact Nat.le_refl 3
        · exact (hshort a b c d rest rfl).elim
      · intro c hc
        exact hdigits c (List.mem_reverse.mp hc)

theorem isGrouped_group {ds : List Char} (hne : ds ≠ [])
    (hdigits : ∀ c ∈ ds, c.isDigit) : IsGrouped (group ds) :=
  isGrouped_separate (mt List.reverse_eq_nil_iff.mp hne) fun c hc =>
    hdigits c (List.mem_reverse.mp hc)

theorem ungrouped_group {ds : List Char} (hdigits : ∀ c ∈ ds, c.isDigit) :
    ungrouped (group ds) = ds := by
  have hreverse : ∀ c ∈ ds.reverse, c.isDigit := fun c hc =>
    hdigits c (List.mem_reverse.mp hc)
  rw [group, ungrouped_reverse, ungrouped_separate hreverse,
    List.reverse_reverse]

section

variable {n : Int} (hn : 0 ≤ n)

include hn

theorem signed_of_nonneg (ds : List Char) : signed n ds = ds :=
  if_neg (Int.not_lt.mpr hn)

/-- A number is written in groups. -/
theorem isGrouped_grouped : IsGrouped (grouped n) := by
  rw [grouped, signed_of_nonneg hn]
  exact isGrouped_group (digits_ne_nil _) fun _ hc => isDigit_of_mem_digits hc

/-- The groups of a number make up its numeral. -/
theorem ungrouped_grouped : ungrouped (grouped n) = digits n.natAbs := by
  rw [grouped, signed_of_nonneg hn]
  exact ungrouped_group fun _ hc => isDigit_of_mem_digits hc

end

/-- Seven digits make a short group and two full ones. -/
example : grouped 1234567 = "1,234,567".toList := by decide

end TokenSplit.Decimal
