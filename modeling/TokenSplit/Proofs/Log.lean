import TokenSplit.Allocation
import TokenSplit.Proofs.Decimal
import TokenSplit.Proofs.Split

/-!
# Which events can be worded

The wording of an event needs the numerals of its numbers.  No bucket of a split is larger than
the count, so of a count that has a numeral only the threshold can be too long to write.  Events
that cannot be worded are not among the records, which are what is read of a log.
-/

namespace TokenSplit

/-- The records of events as they are read at the lowest level: the level, the origin and the text
of every event that has one. -/
def recordsOf (events : List Event) : List (Level × String × String) :=
  (shown .debug events).map fun record =>
    (record.1.level, record.1.source, record.2)

/-- The records that a computation leaves. -/
def Logged.records {α : Type} (x : Logged α) :
    List (Level × String × String) :=
  recordsOf x.log

theorem recordsOf_cons_of_text {event : Event} {text : String}
    (htext : event.text? = some text) (events : List Event) :
    recordsOf (event :: events) =
      (event.level, event.source, text) :: recordsOf events := by
  have hlevel : event.shownAt .debug = true :=
    decide_eq_true (Nat.zero_le event.level.rank)
  simp only [recordsOf, shown, List.filter_cons, hlevel, if_true,
    List.filterMap_cons, htext, Option.map_some, List.map_cons]

/-- An event that cannot be worded is lost. -/
theorem recordsOf_cons_of_none {event : Event} (htext : event.text? = none)
    (events : List Event) : recordsOf (event :: events) = recordsOf events := by
  have hlevel : event.shownAt .debug = true :=
    decide_eq_true (Nat.zero_le event.level.rank)
  simp only [recordsOf, shown, List.filter_cons, hlevel, if_true,
    List.filterMap_cons, htext, Option.map_none]

namespace Decimal

theorem ofList_signed (n : Int) :
    String.ofList (signed n (digits n.natAbs)) = toString n := by
  cases n with
  | ofNat m =>
      have hnonneg : ¬Int.ofNat m < 0 := Int.not_lt.mpr (Int.natCast_nonneg m)
      rw [signed, if_neg hnonneg]
      rfl
  | negSucc m =>
      rw [signed, if_pos (Int.negSucc_lt_zero m), String.ofList_cons]
      rfl

end Decimal

namespace Event

/-- A value with an integer part is written as that integer. -/
theorem numeral?_of_integerPart? {v : Value} {n : Int}
    (hpart : v.integerPart? = some n) (hn : Decimal.Writable n) :
    numeral? v = some (toString n) := by
  simp [numeral?, hpart, Decimal.numeral?, hn, Decimal.ofList_signed]

theorem numeral?_of_no_integerPart? {v : Value}
    (hpart : v.integerPart? = none) : numeral? v = none := by
  simp [numeral?, hpart]

theorem numeral?_count {n : Nat} (hn : Decimal.Writable n) :
    numeral? (.count n) = some (toString n) :=
  numeral?_of_integerPart? rfl hn

theorem isSome_numeral?_count (n : Nat) :
    (numeral? (.count n)).isSome ↔ Decimal.Writable n := by
  by_cases hn : Decimal.Writable n
  · simp [numeral?, Value.integerPart?, Decimal.numeral?, hn]
  · simp [numeral?, Value.integerPart?, Decimal.numeral?, hn]

theorem isSome_text?_belowThreshold (total threshold : Nat) :
    (text? (.belowThreshold total threshold)).isSome ↔
      Decimal.Writable total ∧ Decimal.Writable threshold := by
  rw [← isSome_numeral?_count, ← isSome_numeral?_count]
  cases htotal : numeral? (.count total) <;>
    cases hthreshold : numeral? (.count threshold) <;>
      simp [text?, htotal, hthreshold]

theorem isSome_text?_allocated (total : Nat) (s : Split) :
    (text? (.allocated total s)).isSome ↔
      Decimal.Writable total ∧ Decimal.Writable s.input ∧
        Decimal.Writable s.creation ∧ Decimal.Writable s.read := by
  simp only [← isSome_numeral?_count]
  cases htotal : numeral? (.count total) <;>
    cases hinput : numeral? (.count s.input) <;>
      cases hcreation : numeral? (.count s.creation) <;>
        cases hread : numeral? (.count s.read) <;>
          simp [text?, htotal, hinput, hcreation, hread]

end Event

namespace Ratio

/-- What is read in the log of a count that is split: the count, and the threshold where the count
is below it or else the three buckets. -/
def record (r : Ratio) (count : Nat) (s : Split) : Level × String × String :=
  (.debug, "token_distributor.core.distribution",
    if count < r.threshold then
      s!"{count} tokens below threshold {r.threshold}, not distributed"
    else
      s!"Distributed {count} tokens as {s.input}/{s.creation}/{s.read}")

/-- The event of a count is worded just where the count has a numeral and, if it is below the
threshold, the threshold has one as well. -/
theorem isSome_text?_event (r : Ratio) (count : Nat) :
    (r.event count).text?.isSome ↔
      Decimal.Writable count ∧
        (count < r.threshold → Decimal.Writable r.threshold) := by
  unfold event
  split
  next hcount =>
    rw [Event.isSome_text?_belowThreshold]
    simp only [hcount, forall_const]
  next hcount =>
    have htotal := r.total_split count
    simp only [Split.total] at htotal
    rw [Event.isSome_text?_allocated]
    constructor
    · rintro ⟨hwritable, -⟩
      exact ⟨hwritable, fun h => absurd h hcount⟩
    · rintro ⟨hwritable, -⟩
      exact ⟨hwritable, hwritable.mono (by omega), hwritable.mono (by omega),
        hwritable.mono (by omega)⟩

section

variable (r : Ratio) {count : Nat} (hcount : Decimal.Writable count)
  (hthreshold : Decimal.Writable r.threshold)

include hcount hthreshold

/-- The wording of an event is that of its record. -/
theorem text?_event :
    (r.event count).text? = some (r.record count (r.split count)).2.2 := by
  have htotal := r.total_split count
  simp only [Split.total] at htotal
  unfold event record
  split
  next hbelow =>
    simp only [Event.text?, Event.numeral?_count hcount,
      Event.numeral?_count hthreshold]
    rfl
  next hbelow =>
    have hinput : Decimal.Writable (r.split count).input :=
      hcount.mono (by omega)
    have hcreation : Decimal.Writable (r.split count).creation :=
      hcount.mono (by omega)
    have hread : Decimal.Writable (r.split count).read :=
      hcount.mono (by omega)
    simp only [Event.text?, Event.numeral?_count hcount,
      Event.numeral?_count hinput, Event.numeral?_count hcreation,
      Event.numeral?_count hread]
    rfl

theorem recordsOf_cons_event (events : List Event) :
    recordsOf (r.event count :: events) =
      r.record count (r.split count) :: recordsOf events := by
  have htext := r.text?_event hcount hthreshold
  have hrecord : ((r.event count).level, (r.event count).source,
      (r.record count (r.split count)).2.2) = r.record count (r.split count) := by
    unfold event record
    split <;> rfl
  rw [recordsOf_cons_of_text htext, hrecord]

end

end Ratio

end TokenSplit
