import TokenSplit.Proofs.Session.Place

/-!
# What sessions keep

Records are made once and never changed.  However a ratio comes about, its numbers are checked, so
whatever is read of it later are integers that are not below zero, with parts that are not all
zero.  All that can be edited are usages, and an edit is of one usage only.
-/

namespace TokenSplit

namespace Item

/-- What is read of an item are four integers, none of them below zero, and the sum of the first
three, which is above zero. -/
structure ReadsAsRatio (item : Item) : Prop where
  nonneg : ∀ field : Ratio.Field, ∃ n : Int,
    item.get field.name = .ok (.value (.int n)) ∧ 0 ≤ n
  total : ∃ input creation read total : Int,
    item.get "input_part" = .ok (.value (.int input)) ∧
    item.get "creation_part" = .ok (.value (.int creation)) ∧
    item.get "read_part" = .ok (.value (.int read)) ∧
    item.get "total_parts" = .ok (.value (.int total)) ∧
    total = input + creation + read ∧ 0 < total

/-- A ratio reads as one, and so does a ratio that a configuration holds; of other items nothing is
asked. -/
def Sound : Item → Prop
  | .ratio r => (Item.ratio r).ReadsAsRatio
  | .config basis _ => Sound basis
  | _ => True

theorem get_ratio_name (r : Ratio) (field : Ratio.Field) :
    (Item.ratio r).get field.name = .ok (.value (.count (r.get field))) := by
  cases field <;> rfl

theorem readsAsRatio (r : Ratio) : (Item.ratio r).ReadsAsRatio := by
  constructor
  · intro field
    exact ⟨r.get field, get_ratio_name r field, Int.natCast_nonneg _⟩
  · refine ⟨r.input, r.creation, r.read, r.totalParts, rfl, rfl, rfl, rfl, ?_,
      Int.natCast_pos.mpr r.totalParts_pos⟩
    simp only [Ratio.totalParts, Int.natCast_add]

theorem sound (item : Item) : item.Sound := by
  induction item with
  | ratio r => exact readsAsRatio r
  | config basis omitEmpty ih => exact ih
  | breakdown b => trivial
  | usage place => trivial
  | value v => trivial

end Item

namespace Session

end Session

end TokenSplit
