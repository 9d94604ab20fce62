import TokenSplit.Host
import TokenSplit.Proofs.Result
import TokenSplit.Proofs.Value

/-!
# What a document can hold

The value of a document has no key twice in a mapping, whatever the document repeats or merges:
a mapping is put together by writing its entries one after another.
-/

namespace TokenSplit.Yaml

open Value (WellKeyed)

namespace Document

/-- Nodes without values below them, or whose values are left out, have no repeated keys. -/
theorem wellKeyed_value_zero (d : Document) {node : Tree} {v : Value}
    (hvalue : d.value 0 node = .ok v) : v.WellKeyed := by
  simp only [value] at hvalue
  split at hvalue
  · cases hvalue
    exact .list (by simp)
  · cases hvalue
    exact .mapping .nil (by simp)
  · cases hvalue
    exact .set []
  · cases hvalue
    exact .pairs (by simp) (by simp)
  · cases hvalue
    exact .pairs (by simp) (by simp)
  · obtain ⟨s, -, hvalue⟩ := bind_eq_ok_iff.mp hvalue
    cases hvalue
    exact .scalar s

section Below

variable (d : Document) (f : Tree → Reading Value)
  (hf : ∀ node v, f node = .ok v → v.WellKeyed)

include hf

theorem wellKeyed_entries {nodes : List (Tree × Tree)}
    {entries : List (Scalar × Value)}
    (hentries :
      nodes.mapM (fun node => do
        return (← d.scalar node.1, ← f node.2)) = .ok entries) :
    WellKeyed (.mapping
      (entries.foldl (fun all (key, value) => Value.putEntry all key value)
        [])) := by
  refine Value.wellKeyed_foldl_putEntry entries ?_ (.mapping .nil (by simp))
  refine forall_mem_of_mapM ?_ hentries
  intro entry e he
  obtain ⟨key, -, he⟩ := bind_eq_ok_iff.mp he
  obtain ⟨value, hvalue, he⟩ := bind_eq_ok_iff.mp he
  cases he
  exact hf _ _ hvalue

theorem wellKeyed_pairs {items : List Tree} {pairs : List (Value × Value)}
    (hpairs :
      items.mapM (fun item => do
        let nodes ← d.pair item
        return (← f nodes.1, ← f nodes.2)) = .ok pairs) :
    WellKeyed (.pairs pairs) := by
  have hparts : ∀ p ∈ pairs, p.1.WellKeyed ∧ p.2.WellKeyed := by
    refine forall_mem_of_mapM ?_ hpairs
    intro item p hp
    obtain ⟨entry, -, hp⟩ := bind_eq_ok_iff.mp hp
    obtain ⟨key, hkey, hp⟩ := bind_eq_ok_iff.mp hp
    obtain ⟨value, hvalue, hp⟩ := bind_eq_ok_iff.mp hp
    cases hp
    exact ⟨hf _ _ hkey, hf _ _ hvalue⟩
  exact .pairs (fun p hp => (hparts p hp).1) fun p hp => (hparts p hp).2

end Below

/-- The value of a node has no repeated keys, by induction on the depth to which it is shown. -/
theorem wellKeyed_value (d : Document) (depth : Nat) {node : Tree}
    {v : Value} (hvalue : d.value depth node = .ok v) : v.WellKeyed := by
  induction depth generalizing node v with
  | zero => exact d.wellKeyed_value_zero hvalue
  | succ depth ih =>
      simp only [value] at hvalue
      split at hvalue
      · obtain ⟨items, -, hvalue⟩ := bind_eq_ok_iff.mp hvalue
        obtain ⟨values, hvalues, hvalue⟩ := bind_eq_ok_iff.mp hvalue
        cases hvalue
        exact .list (forall_mem_of_mapM (fun _ _ => ih) hvalues)
      · obtain ⟨nodes, -, hvalue⟩ := bind_eq_ok_iff.mp hvalue
        obtain ⟨entries, hentries, hvalue⟩ := bind_eq_ok_iff.mp hvalue
        cases hvalue
        exact d.wellKeyed_entries (d.value depth) (fun _ _ => ih) hentries
      · obtain ⟨nodes, -, hvalue⟩ := bind_eq_ok_iff.mp hvalue
        obtain ⟨members, -, hvalue⟩ := bind_eq_ok_iff.mp hvalue
        cases hvalue
        exact .set _
      · obtain ⟨items, -, hvalue⟩ := bind_eq_ok_iff.mp hvalue
        obtain ⟨pairs, hpairs, hvalue⟩ := bind_eq_ok_iff.mp hvalue
        cases hvalue
        exact d.wellKeyed_pairs (d.value depth) (fun _ _ => ih) hpairs
      · obtain ⟨items, -, hvalue⟩ := bind_eq_ok_iff.mp hvalue
        obtain ⟨pairs, hpairs, hvalue⟩ := bind_eq_ok_iff.mp hvalue
        cases hvalue
        exact d.wellKeyed_pairs (d.value depth) (fun _ _ => ih) hpairs
      · obtain ⟨s, -, hvalue⟩ := bind_eq_ok_iff.mp hvalue
        cases hvalue
        exact .scalar s

end Document

/-- What is read from a document has no repeated keys. -/
theorem wellKeyed_read {s : List Char} {v : Value} (hread : read s = .ok v) :
    v.WellKeyed := by
  simp only [read] at hread
  split at hread
  · cases hread
  obtain ⟨-, -, hread⟩ := bind_eq_ok_iff.mp hread
  obtain ⟨found, -, hread⟩ := bind_eq_ok_iff.mp hread
  split at hread
  · cases hread
    exact .scalar .null
  split at hread
  · cases hread
  next d hd =>
    obtain ⟨-, -, hread⟩ := bind_eq_ok_iff.mp hread
    exact d.wellKeyed_value shownDepth hread

/-- Neither has what a host reads that has the reader of this library. -/
theorem wellKeyed_standard {disk : Disk} {octets : List UInt8} {v : Value}
    (hread : (Host.standard disk).read octets = .ok v) : v.WellKeyed := by
  change reader octets = .ok v at hread
  unfold reader at hread
  split at hread
  · cases hread
  split at hread
  next hvalue =>
    cases hread
    exact wellKeyed_read hvalue
  · cases hread
  · cases hread

end TokenSplit.Yaml
