import TokenSplit.Proofs.Session.Step

/-!
# Places of usages

A usage is held by its place.  Every usage that a name stands for, or that a configuration was given
as its ratio, is one of the session, and stays as it is unless a step writes to just this usage.
What holds no usage at all shows the same for ever.
-/

namespace TokenSplit

namespace Item

/-- The place of the usage that an item is, or that a configuration holds as its ratio. -/
def place? : Item → Option Nat
  | .usage place => some place
  | .config basis _ => place? basis
  | _ => none

/-- The usage that an item is or holds is among the first ones. -/
def PlacedIn (count : Nat) (item : Item) : Prop :=
  ∀ place, item.place? = some place → place < count

theorem PlacedIn.mono {item : Item} {count later : Nat}
    (h : item.PlacedIn count) (hle : count ≤ later) : item.PlacedIn later := by
  intro place hplace
  exact Nat.lt_of_lt_of_le (h place hplace) hle

@[simp] theorem placedIn_ratio (count : Nat) (r : Ratio) :
    (Item.ratio r).PlacedIn count := by
  rintro place ⟨⟩

@[simp] theorem placedIn_breakdown (count : Nat) (b : Breakdown) :
    (Item.breakdown b).PlacedIn count := by
  rintro place ⟨⟩

@[simp] theorem placedIn_value (count : Nat) (v : Value) :
    (Item.value v).PlacedIn count := by
  rintro place ⟨⟩

@[simp] theorem placedIn_config (count : Nat) (basis : Item)
    (omitEmpty : Value) :
    (Item.config basis omitEmpty).PlacedIn count ↔ basis.PlacedIn count :=
  Iff.rfl

@[simp] theorem placedIn_usage (count place : Nat) :
    (Item.usage place).PlacedIn count ↔ place < count := by
  constructor
  · intro h
    exact h place rfl
  · rintro h _ ⟨⟩
    exact h

/-- What an item shows depends on no usage but the one that it is or holds. -/
theorem text?_congr {item : Item} {usages later : List Usage}
    (h : ∀ place, item.place? = some place →
      usageAt later place = usageAt usages place) :
    item.text? later = item.text? usages := by
  induction item with
  | config basis omitEmpty ih => rw [text?, text?, ih h]
  | usage place => rw [text?, text?, h place rfl]
  | _ => rfl

/-- A field of an item holds no usage that the item does not hold. -/
theorem placedIn_get {item held : Item} {count : Nat}
    (hitem : item.PlacedIn count) {field : String}
    (h : item.get field = .ok held) : held.PlacedIn count := by
  unfold get at h
  split at h
  case h_2 =>
    split at h
    · cases h
      simp
    · cases h
  case h_6 b =>
    cases htotal : b.total with
    | error fault =>
        rw [htotal] at h
        cases h
    | ok total =>
        rw [htotal] at h
        cases h
        simp
  case h_7 b =>
    cases hcache : b.hasCache with
    | error fault =>
        rw [hcache] at h
        cases h
    | ok cached =>
        rw [hcache] at h
        cases h
        simp
  case h_8 =>
    cases h
    exact hitem
  case h_10 => cases h
  all_goals
    cases h
    simp

/-- Replacing fields of an item brings in no usage but the one that is given. -/
theorem placedIn_replace {item made : Item} {held : Option Item} {count : Nat}
    (hitem : item.PlacedIn count)
    (hheld : ∀ given, held = some given → given.PlacedIn count)
    {entries : List (String × Value)}
    (h : item.replace held entries = .ok made) : made.PlacedIn count := by
  cases item with
  | ratio r =>
      cases held with
      | some given => cases h
      | none =>
          obtain ⟨r, -, h⟩ := bind_eq_ok_iff.mp h
          cases h
          simp
  | breakdown b =>
      cases held with
      | some given => cases h
      | none =>
          obtain ⟨b, -, h⟩ := bind_eq_ok_iff.mp h
          cases h
          simp
  | config basis omitEmpty =>
      simp only [replace, replaceConfig, bind_eq_ok_iff] at h
      obtain ⟨-, -, h⟩ := h
      cases h
      rw [placedIn_config]
      cases held with
      | some given => exact hheld given rfl
      | none =>
          cases entries.lookup "ratio" with
          | some v => simp
          | none => exact hitem
  | usage place => cases h
  | value v => cases h

end Item

namespace Session

/-- All usages that names stand for, or that configurations hold, are usages of the session. -/
def Placed (s : Session) : Prop :=
  ∀ name item, s.find name = .ok item → item.PlacedIn s.usages.length

/-- What is made is, holds or changes a usage only if it is one of the first ones. -/
def Made.PlacedIn (count : Nat) : Made → Prop
  | .item made => made.PlacedIn count
  | .edited place _ => place < count
  | _ => True

theorem placedIn_find? {s : Session} (hs : s.Placed) {name : Option String}
    {held : Option Item} (h : s.find? name = .ok held) :
    ∀ item, held = some item → item.PlacedIn s.usages.length := by
  rintro item rfl
  cases name with
  | none => cases h
  | some name =>
      cases hfind : s.find name with
      | error fault =>
          rw [find?, hfind] at h
          cases h
      | ok found =>
          rw [find?, hfind] at h
          cases h
          exact hs name _ hfind

theorem placedIn_findRatio {s : Session} (hs : s.Placed) {name : Option String}
    {item : Item} (h : s.findRatio name = .ok item) :
    item.PlacedIn s.usages.length := by
  cases name with
  | none =>
      cases h
      simp
  | some name =>
      cases hfind : s.find name with
      | error fault =>
          simp only [findRatio, find?, hfind] at h
          cases h
      | ok found =>
          simp only [findRatio, find?, hfind] at h
          cases h
          exact hs name found hfind

/-- The usages that a step finds or changes are among those of the session. -/
theorem gives_eval {s : Session} (hs : s.Placed) (step : Step) :
    (s.eval step).Gives (Made.PlacedIn s.usages.length) := by
  have hfind (name : String) : (liftM (s.find name) : Logged Item).Gives
      (Item.PlacedIn s.usages.length) := hs name
  cases step with
  | ratio args =>
      exact .andThen fun r => .pure (Item.placedIn_ratio _ r)
  | breakdown args =>
      exact .andThen fun b => .pure (Item.placedIn_breakdown _ b)
  | standardRatio => exact .pure (Item.placedIn_ratio _ Ratio.standard)
  | standardConfig => exact .pure (Item.placedIn_ratio _ Ratio.standard)
  | config ratio omitEmpty =>
      refine .bind (.lift fun _ => placedIn_findRatio hs) ?_
      exact fun basis hbasis => .pure hbasis
  | write path node => exact .pure trivial
  | remove path => exact .pure trivial
  | load path =>
      exact .andThen fun config => .pure (Item.placedIn_ratio _ config.ratio)
  | allocate total ratio =>
      refine .andThen fun basis => .andThen fun split => ?_
      exact .pure (Item.placedIn_breakdown _ split.breakdown)
  | usage name output omitEmpty =>
      refine .andThen fun item => ?_
      cases item with
      | breakdown b => exact .andThen fun u => .pure trivial
      | _ => exact .andThen fun _ => .throw _
  | report name total output =>
      refine .andThen fun item => ?_
      cases item with
      | config basis omitEmpty => exact .andThen fun u => .pure trivial
      | _ => exact .throw _
  | put name key value =>
      refine .bind (hfind name) fun item hitem => ?_
      cases item with
      | usage place =>
          exact .pure ((Item.placedIn_usage _ place).mp hitem)
      | _ => exact .throw _
  | get name field =>
      refine .bind (hfind name) fun item hitem => ?_
      refine .bind (.lift fun _ => Item.placedIn_get hitem) ?_
      exact fun held hheld => .pure hheld
  | set name field => exact .andThen fun item => .throw _
  | erase name field => exact .andThen fun item => .throw _
  | replace name ratio entries =>
      refine .bind (hfind name) fun item hitem => ?_
      refine .bind (.lift fun _ => placedIn_find? hs) fun held hheld => ?_
      refine .bind (.lift fun _ => Item.placedIn_replace hitem hheld) ?_
      exact fun made hmade => .pure hmade
  | copy name =>
      refine .bind (hfind name) fun item hitem => ?_
      cases item with
      | usage place => exact .pure trivial
      | _ => exact .pure hitem
  | same left right =>
      refine .andThen fun a => .andThen fun b => ?_
      exact .pure (Item.placedIn_value _ _)
  | less left right => exact .andThen fun a => .andThen fun b => .throw _
  | distinct items =>
      refine .andThen fun found => .andThen fun n => ?_
      exact .pure (Item.placedIn_value _ (.count n))
  | text name =>
      refine .andThen fun item => ?_
      cases item.text? s.usages with
      | some text => exact .pure (Item.placedIn_value _ (.text text))
      | none => exact .throw _
  | item name =>
      refine .bind (hfind name) ?_
      exact fun item hitem => .pure hitem

/-- No step takes a usage out of a session. -/
theorem length_usages_settle (s : Session) (made : Made) :
    s.usages.length ≤ (s.settle made).1.usages.length := by
  cases made with
  | usage u => simp [settle]
  | edited place u => simp [settle]
  | _ => exact Nat.le_refl _

theorem placedIn_settle {s : Session} {made : Made}
    (hmade : made.PlacedIn s.usages.length) :
    (s.settle made).2.PlacedIn (s.settle made).1.usages.length := by
  cases made with
  | item held => exact hmade
  | usage u => simp [settle]
  | edited place u =>
      have hplace : place < s.usages.length := hmade
      simpa [settle] using hplace
  | files disk => exact Item.placedIn_value _ _

theorem placed_bind {s : Session} (hs : s.Placed) (name : String) {item : Item}
    (hitem : item.PlacedIn s.usages.length) : (s.bind name item).Placed := by
  intro other found hfind
  by_cases hother : other = name
  · subst hother
    rw [find_bind_self] at hfind
    cases hfind
    exact hitem
  · rw [find_bind_of_ne s hother] at hfind
    exact hs other found hfind

theorem placed_step {s : Session} (hs : s.Placed) (step : Step)
    (taken : Option String) : (s.step step taken).1.Placed := by
  cases hmade : (s.eval step).result with
  | error fault =>
      rw [step_of_fault hmade]
      exact hs
  | ok made =>
      have hplaced := gives_eval hs step made hmade
      have hafter : (s.settle made).1.Placed := by
        intro name item hfind
        rw [find_settle] at hfind
        exact (hs name item hfind).mono (s.length_usages_settle made)
      cases taken with
      | none => simpa only [Session.step, hmade] using hafter
      | some name =>
          simpa only [Session.step, hmade] using
            placed_bind hafter name (placedIn_settle hplaced)

theorem placed_start (host : Host) : (start host).Placed := by
  intro name item hfind
  cases hfind

theorem placed_after {s : Session} (hs : s.Placed)
    (steps : List (Step × Option String)) : (s.after steps).Placed := by
  induction steps generalizing s with
  | nil => exact hs
  | cons taken steps ih => exact ih (placed_step hs taken.1 taken.2)

/-! ## Edits -/

/-- Steps of which none writes to the usage at a place. -/
def Spares (s : Session) (place : Nat) : List (Step × Option String) → Prop
  | [] => True
  | taken :: later =>
    (∀ u, (s.eval taken.1).result ≠ .ok (.edited place u)) ∧
      Spares (s.step taken.1 taken.2).1 place later

/-- Whatever is made but an edit of the usage at a place leaves that usage as it is. -/
theorem usageAt_settle {s : Session} {place : Nat}
    (hplace : place < s.usages.length) {made : Made}
    (hmade : ∀ u, made ≠ .edited place u) :
    Item.usageAt (s.settle made).1.usages place =
      Item.usageAt s.usages place := by
  cases made with
  | usage u =>
      simp [settle, Item.usageAt, List.getElem?_append_left hplace]
  | edited other u =>
      have hother : other ≠ place := by
        rintro rfl
        exact hmade u rfl
      simp [settle, Item.usageAt, List.getElem?_set_ne hother]
  | _ => rfl

theorem usages_step_of_ok {s : Session} {step : Step} {made : Made}
    (hmade : (s.eval step).result = .ok made) (taken : Option String) :
    (s.step step taken).1.usages = (s.settle made).1.usages := by
  cases taken with
  | none => simp only [Session.step, hmade]
  | some name =>
      simp only [Session.step, hmade]
      rfl

theorem length_usages_step (s : Session) (step : Step)
    (taken : Option String) :
    s.usages.length ≤ (s.step step taken).1.usages.length := by
  cases hmade : (s.eval step).result with
  | error fault => simp only [step_of_fault hmade, Nat.le_refl]
  | ok made =>
      rw [usages_step_of_ok hmade]
      exact s.length_usages_settle made

/-- A step that does not write to a usage leaves it as it is. -/
theorem usageAt_step {s : Session} {place : Nat}
    (hplace : place < s.usages.length) {step : Step}
    (hspared : ∀ u, (s.eval step).result ≠ .ok (.edited place u))
    (taken : Option String) :
    Item.usageAt (s.step step taken).1.usages place =
      Item.usageAt s.usages place := by
  cases hmade : (s.eval step).result with
  | error fault => rw [step_of_fault hmade]
  | ok made =>
      rw [usages_step_of_ok hmade]
      refine usageAt_settle hplace fun u hu => ?_
      rw [hmade, hu] at hspared
      exact hspared u rfl

/-- Steps of which none writes to a usage leave it as it is, by induction on the steps. -/
theorem usageAt_after {s : Session} {place : Nat}
    (hplace : place < s.usages.length) {later : List (Step × Option String)}
    (hspared : s.Spares place later) :
    Item.usageAt (s.after later).usages place =
      Item.usageAt s.usages place := by
  induction later generalizing s with
  | nil => rfl
  | cons taken later ih =>
      have hmore := Nat.lt_of_lt_of_le hplace
        (s.length_usages_step taken.1 taken.2)
      exact (ih hmore hspared.2).trans
        (usageAt_step hplace hspared.1 taken.2)

end Session

end TokenSplit
