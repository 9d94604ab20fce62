import TokenSplit.Proofs.Decimal.Finite
import TokenSplit.Value.Text

/-!
# Which values can be written

A value has a text if every integer in it can be written.  Only numbers, flags and indexes of
integers or flags can stand in a place for an integer; the integer there can be written as well.
-/

namespace TokenSplit

theorem exists_mapM {α β : Type} {f : α → Option β} {l : List α}
    (hl : ∀ a ∈ l, ∃ b, f a = some b) : ∃ bs, l.mapM f = some bs := by
  induction l with
  | nil => exact ⟨[], rfl⟩
  | cons a l ih =>
      obtain ⟨ha, hl⟩ := List.forall_mem_cons.mp hl
      obtain ⟨b, hb⟩ := ha
      obtain ⟨bs, hbs⟩ := ih hl
      exact ⟨b :: bs, by rw [List.mapM_cons, hb, hbs]; rfl⟩

/-- A scalar can be written unless it is an integer with too long a numeral. -/
def Scalar.Writable : Scalar → Prop
  | .int n => Decimal.Writable n
  | _ => True

theorem Scalar.Writable.exists_render? {s : Scalar} (hs : s.Writable) :
    ∃ text, s.render? = some text := by
  cases s with
  | bool b => cases b <;> exact ⟨_, rfl⟩
  | int n =>
      have hn : Decimal.Writable n := hs
      simp [render?, Decimal.numeral?, hn]
  | _ => exact ⟨_, rfl⟩

namespace Value

/-- Every integer in the value can be written. -/
inductive Writable : Value → Prop where
  | scalar {s : Scalar} (hs : s.Writable) : Writable (.scalar s)
  | list {items : List Value} (hitems : ∀ v ∈ items, Writable v) :
      Writable (.list items)
  | pairs {items : List (Value × Value)}
      (hfirst : ∀ p ∈ items, Writable p.1)
      (hsecond : ∀ p ∈ items, Writable p.2) : Writable (.pairs items)
  | set {members : List Scalar} (hmembers : ∀ s ∈ members, s.Writable) :
      Writable (.set members)
  | mapping {entries : List (Scalar × Value)}
      (hkeys : ∀ e ∈ entries, e.1.Writable)
      (hvalues : ∀ e ∈ entries, Writable e.2) : Writable (.mapping entries)
  | index {target : Value} (htarget : Writable target) :
      Writable (.index target)

/-- The text of a pair. -/
def pairText? (p : Value × Value) : Option String := do
  return "(" ++ (← p.1.render?) ++ ", " ++ (← p.2.render?) ++ ")"

/-- The text of an entry of a mapping. -/
def entryText? (e : Scalar × Value) : Option String := do
  return (← e.1.render?) ++ ": " ++ (← e.2.render?)

theorem renderItems?_eq_mapM (items : List Value) :
    renderItems? items = items.mapM render? := by
  induction items with
  | nil => rfl
  | cons v items ih => rw [renderItems?, ih, List.mapM_cons]

theorem renderPairs?_eq_mapM (items : List (Value × Value)) :
    renderPairs? items = items.mapM pairText? := by
  induction items with
  | nil => rfl
  | cons p items ih =>
      rw [renderPairs?, ih, List.mapM_cons]
      simp [pairText?, Option.bind_assoc]

theorem renderEntries?_eq_mapM (entries : List (Scalar × Value)) :
    renderEntries? entries = entries.mapM entryText? := by
  induction entries with
  | nil => rfl
  | cons e entries ih =>
      rw [renderEntries?, ih, List.mapM_cons]
      simp [entryText?, Option.bind_assoc]

theorem Writable.exists_render? {v : Value} (hv : v.Writable) :
    ∃ text, v.render? = some text := by
  induction hv with
  | scalar hs => exact hs.exists_render?
  | list _ ih =>
      obtain ⟨texts, htexts⟩ := exists_mapM ih
      simp [render?, renderItems?_eq_mapM, htexts]
  | @pairs items _ _ hfirst hsecond =>
      have hitems : ∀ p ∈ items, ∃ text, pairText? p = some text := by
        intro p hp
        obtain ⟨first, hfirst⟩ := hfirst p hp
        obtain ⟨second, hsecond⟩ := hsecond p hp
        simp [pairText?, hfirst, hsecond]
      obtain ⟨texts, htexts⟩ := exists_mapM hitems
      simp [render?, renderPairs?_eq_mapM, htexts]
  | @set members hmembers =>
      have hmembers : ∀ s ∈ members, ∃ text, s.render? = some text := by
        intro s hs
        exact (hmembers s hs).exists_render?
      obtain ⟨texts, htexts⟩ := exists_mapM hmembers
      cases hempty : members.isEmpty <;> simp [render?, htexts, hempty]
  | @mapping entries hkeys _ ih =>
      have hentries : ∀ e ∈ entries, ∃ text, entryText? e = some text := by
        intro e he
        obtain ⟨key, hkey⟩ := (hkeys e he).exists_render?
        obtain ⟨value, hvalue⟩ := ih e he
        simp [entryText?, hkey, hvalue]
      obtain ⟨texts, htexts⟩ := exists_mapM hentries
      simp [render?, renderEntries?_eq_mapM, htexts]
  | index _ ih =>
      obtain ⟨text, htext⟩ := ih
      simp [render?, htext]

theorem Writable.exists_display? {v : Value} (hv : v.Writable) :
    ∃ text, v.display? = some text := by
  unfold display?
  split
  · exact ⟨_, rfl⟩
  · exact ⟨_, rfl⟩
  · exact hv.exists_render?

/-- What can stand in a place for an integer: an integer, a flag, a finite binary number, or an
index of an integer or a flag. -/
def IsNumber : Value → Prop
  | .int _ => True
  | .bool _ => True
  | .float x => x.isFinite = true
  | .index (.int _) => True
  | .index (.bool _) => True
  | _ => False

theorem isSome_integerPart?_iff (v : Value) :
    v.integerPart?.isSome ↔ v.IsNumber := by
  unfold integerPart?
  split
  next => exact iff_of_true rfl trivial
  next => exact iff_of_true rfl trivial
  next x => exact Decimal.isSome_integerPart?_iff x
  next => exact iff_of_true rfl trivial
  next => exact iff_of_true rfl trivial
  next hint hbool hfloat hindex hflag =>
    refine iff_of_false Bool.false_ne_true ?_
    unfold IsNumber
    split
    next n => exact absurd rfl (hint n)
    next b => exact absurd rfl (hbool b)
    next x => exact absurd rfl (hfloat x)
    next n => exact absurd rfl (hindex n)
    next b => exact absurd rfl (hflag b)
    next => exact id

theorem writable_flag (b : Bool) :
    Decimal.Writable (if b then 1 else 0) := by
  cases b <;> decide

/-- The integer that stands for a value can be written if the value can. -/
theorem Writable.integerPart? {v : Value} (hv : v.Writable) {n : Int}
    (hpart : v.integerPart? = some n) : Decimal.Writable n := by
  unfold Value.integerPart? at hpart
  split at hpart
  next =>
    cases hpart
    cases hv with
    | scalar hn => exact hn
  next =>
    cases hpart
    exact writable_flag _
  next => exact Decimal.writable_of_integerPart? hpart
  next =>
    cases hpart
    cases hv with
    | index htarget =>
        cases htarget with
        | scalar hn => exact hn
  next =>
    cases hpart
    exact writable_flag _
  next => cases hpart

end Value

end TokenSplit
