import TokenSplit.Value

/-!
# Mappings without repeated keys

Writing entries one after another never gives a mapping the same key twice, where a number is the
same key in all its spellings.  In such a mapping a name has at most one value, wherever its entry
stands, and so has a name in one of its sections.  What is given under a name comes before the
default for it.
-/

namespace TokenSplit

/-- A key is the same as a text only if it is that text. -/
theorem Scalar.same_text_iff (key : Scalar) (name : String) :
    key.same (.text name) ↔ key = .text name := by
  cases key <;> simp [same, asInt?]

namespace Value

/-! ## Writing entries -/

/-- No two of the keys are the same. -/
def DistinctKeys (entries : List (Scalar × Value)) : Prop :=
  entries.Pairwise fun e f => e.1.same f.1 = false

/-- Every mapping in the value has distinct keys. -/
inductive WellKeyed : Value → Prop where
  | scalar (s : Scalar) : WellKeyed (.scalar s)
  | list {items : List Value} (hitems : ∀ v ∈ items, WellKeyed v) :
      WellKeyed (.list items)
  | pairs {items : List (Value × Value)}
      (hfirst : ∀ p ∈ items, WellKeyed p.1)
      (hsecond : ∀ p ∈ items, WellKeyed p.2) : WellKeyed (.pairs items)
  | set (members : List Scalar) : WellKeyed (.set members)
  | mapping {entries : List (Scalar × Value)}
      (hkeys : DistinctKeys entries)
      (hvalues : ∀ e ∈ entries, WellKeyed e.2) : WellKeyed (.mapping entries)

theorem entry?_cons (e : Scalar × Value) (entries : List (Scalar × Value))
    (name : String) :
    entry? (e :: entries) name =
      if e.1.same (.text name) then some e.2 else entry? entries name := by
  simp only [Value.entry?, List.find?_cons]
  split <;> simp_all

/-- Looking up a name finds the entry under it. -/
theorem entry?_eq_some_iff {entries : List (Scalar × Value)}
    (hkeys : DistinctKeys entries) (name : String) (v : Value) :
    entry? entries name = some v ↔ (.text name, v) ∈ entries := by
  induction entries with
  | nil => simp [Value.entry?]
  | cons e entries ih =>
      obtain ⟨hfirst, hrest⟩ := List.pairwise_cons.mp hkeys
      rw [Value.entry?_cons, List.mem_cons]
      by_cases he : e.1.same (.text name)
      · have hkey := (e.1.same_text_iff name).mp he
        rw [if_pos he]
        constructor
        · intro hv
          cases hv
          rw [← hkey]
          exact .inl rfl
        · rintro (hv | hv)
          · rw [← hv]
          · have hdifferent := hfirst _ hv
            rw [he] at hdifferent
            cases hdifferent
      · rw [if_neg he, ih hrest]
        constructor
        · exact .inr
        · rintro (hv | hv)
          · rw [← hv] at he
            simp [Scalar.same_text_iff] at he
          · exact hv

/-- Writing an entry repeats no key. -/
theorem distinctKeys_putEntry {entries : List (Scalar × Value)}
    (hkeys : DistinctKeys entries) (key : Scalar) (value : Value) :
    DistinctKeys (putEntry entries key value) := by
  unfold putEntry
  split
  next =>
    rw [DistinctKeys, List.pairwise_map]
    refine List.Pairwise.imp ?_ hkeys
    intro e f hef
    split <;> split <;> exact hef
  next hnew =>
    refine List.pairwise_append.mpr ⟨hkeys, List.pairwise_singleton _ _, ?_⟩
    intro e he f hf
    rw [List.mem_singleton.mp hf]
    simp only [List.any_eq_true, not_exists, not_and,
      Bool.not_eq_true] at hnew
    exact hnew e he

/-- What holds of the values of a mapping and of a new value holds after writing it. -/
theorem forall_mem_putEntry {entries : List (Scalar × Value)}
    {P : Value → Prop} (hvalues : ∀ e ∈ entries, P e.2) (key : Scalar)
    {value : Value} (hvalue : P value) :
    ∀ e ∈ putEntry entries key value, P e.2 := by
  intro e he
  unfold putEntry at he
  split at he
  next =>
    obtain ⟨f, hf, rfl⟩ := List.mem_map.mp he
    split
    · exact hvalue
    · exact hvalues f hf
  next =>
    rcases List.mem_append.mp he with he | he
    · exact hvalues e he
    · rw [List.mem_singleton.mp he]
      exact hvalue

/-- Entries written one after another make a mapping with distinct keys. -/
theorem wellKeyed_foldl_putEntry (written : List (Scalar × Value))
    (hwritten : ∀ e ∈ written, WellKeyed e.2)
    {entries : List (Scalar × Value)}
    (hentries : WellKeyed (.mapping entries)) :
    WellKeyed (.mapping
      (written.foldl (fun all (key, value) => putEntry all key value)
        entries)) := by
  induction written generalizing entries with
  | nil => exact hentries
  | cons e written ih =>
      cases hentries with
      | mapping hkeys hvalues =>
          refine ih (fun f hf => hwritten f (List.mem_cons_of_mem e hf))
            (.mapping (distinctKeys_putEntry hkeys e.1 e.2) ?_)
          exact forall_mem_putEntry hvalues e.1
            (hwritten e List.mem_cons_self)

/-- Entries with new keys are written one behind the other. -/
theorem foldl_putEntry_eq (written : List (Scalar × Value))
    {entries : List (Scalar × Value)}
    (hkeys : DistinctKeys (entries ++ written)) :
    written.foldl (fun all e => putEntry all e.1 e.2) entries =
      entries ++ written := by
  induction written generalizing entries with
  | nil => simp
  | cons e written ih =>
      have hnew : ∀ f ∈ entries, f.1.same e.1 = false := by
        intro f hf
        exact (List.pairwise_append.mp hkeys).2.2 f hf _ List.mem_cons_self
      have hput : putEntry entries e.1 e.2 = entries ++ [e] := by
        refine if_neg ?_
        simpa using hnew
      simp only [List.foldl_cons, hput]
      rw [ih (by simpa using hkeys)]
      simp

/-! ## What mappings hold -/

/-- A mapping holds a value under a name. -/
def Holds (v : Value) (name : String) (held : Value) : Prop :=
  ∃ entries, v = .mapping entries ∧ (.text name, held) ∈ entries

/-- A mapping whose keys are all among some names. -/
def HasKeysAmong (v : Value) (names : List String) : Prop :=
  ∃ entries, v = .mapping entries ∧
    ∀ e ∈ entries, ∃ name ∈ names, e.1 = .text name

/-- A mapping holds a value under a name in one of its sections. -/
def HoldsIn (v : Value) (place name : String) (held : Value) : Prop :=
  ∃ inner, v.Holds place inner ∧ inner.Holds name held

/-- The value under a name, if there is a mapping that holds one. -/
def held? (v : Value) (name : String) : Option Value :=
  match v with
  | .mapping entries => Value.entry? entries name
  | _ => none

theorem held?_empty (name : String) : (mapping []).held? name = none := rfl

theorem held?_eq_some_iff {v : Value} (hv : v.WellKeyed) (name : String)
    (held : Value) : v.held? name = some held ↔ v.Holds name held := by
  cases hv with
  | mapping hkeys hvalues =>
      simp only [held?, entry?_eq_some_iff hkeys, Holds, mapping.injEq,
        exists_eq_left']
  | _ => simp [held?, Holds]

theorem WellKeyed.of_holds {v held : Value} {name : String}
    (hv : v.WellKeyed) (hheld : v.Holds name held) : held.WellKeyed := by
  obtain ⟨entries, rfl, hmem⟩ := hheld
  cases hv with
  | mapping hkeys hvalues => exact hvalues _ hmem

theorem Holds.unique {v first second : Value} (hv : v.WellKeyed)
    {name : String} (hfirst : v.Holds name first)
    (hsecond : v.Holds name second) : first = second := by
  rw [← held?_eq_some_iff hv] at hfirst hsecond
  exact Option.some.inj (hfirst.symm.trans hsecond)

/-- The section under a name, which is empty where none is given. -/
def inner (v : Value) (place : String) : Value :=
  (v.held? place).getD (.mapping [])

theorem held?_inner_eq_some_iff {v : Value} (hv : v.WellKeyed)
    (place name : String) (held : Value) :
    (v.inner place).held? name = some held ↔ v.HoldsIn place name held := by
  cases hplace : v.held? place with
  | none =>
      have hnone : ¬v.HoldsIn place name held := by
        rintro ⟨below, hbelow, -⟩
        rw [← held?_eq_some_iff hv, hplace] at hbelow
        cases hbelow
      simp [inner, hplace, hnone, held?_empty]
  | some below =>
      have hbelow := (held?_eq_some_iff hv place below).mp hplace
      simp only [inner, hplace, Option.getD_some,
        held?_eq_some_iff (hv.of_holds hbelow)]
      constructor
      · intro hheld
        exact ⟨below, hbelow, hheld⟩
      · rintro ⟨other, hother, hheld⟩
        rw [← held?_eq_some_iff hv, hplace] at hother
        cases hother
        exact hheld

theorem inner_of_holds {v : Value} (hv : v.WellKeyed) {place : String}
    {below : Value} (hbelow : v.Holds place below) :
    v.inner place = below := by
  rw [inner, (held?_eq_some_iff hv place below).mpr hbelow,
    Option.getD_some]

theorem hasKeysAmong_inner_iff {v : Value} (hv : v.WellKeyed)
    (place : String) (names : List String) :
    (v.inner place).HasKeysAmong names ↔
      ∀ below, v.Holds place below → below.HasKeysAmong names := by
  constructor
  · intro hnames below hbelow
    rw [inner_of_holds hv hbelow] at hnames
    exact hnames
  · intro hnames
    cases hplace : v.held? place with
    | none =>
        rw [inner, hplace, Option.getD_none]
        exact ⟨[], rfl, by simp⟩
    | some below =>
        have hbelow := (held?_eq_some_iff hv place below).mp hplace
        rw [inner_of_holds hv hbelow]
        exact hnames below hbelow

/-- A mapping with known keys holds values under those alone. -/
theorem HasKeysAmong.mem_of_holds {v held : Value} {names : List String}
    (hnames : v.HasKeysAmong names) {name : String}
    (hheld : v.Holds name held) : name ∈ names := by
  obtain ⟨entries, rfl, hkeys⟩ := hnames
  obtain ⟨_, hentries, hmem⟩ := hheld
  cases hentries
  obtain ⟨known, hknown, hname⟩ := hkeys _ hmem
  cases hname
  exact hknown

theorem HoldsIn.unique {v first second : Value} (hv : v.WellKeyed)
    {place name : String} (hfirst : v.HoldsIn place name first)
    (hsecond : v.HoldsIn place name second) : first = second := by
  rw [← held?_inner_eq_some_iff hv] at hfirst hsecond
  exact Option.some.inj (hfirst.symm.trans hsecond)

/-! ## Given values and defaults -/

/-- The value that is given, or the default where none is. -/
def Effective (Given : Value → Prop) (default v : Value) : Prop :=
  Given v ∨ v = default ∧ ∀ w, ¬Given w

/-- The effective value is what is found, or else the default. -/
theorem effective_iff {Given : Value → Prop} {found : Option Value}
    (hfound : ∀ w, found = some w ↔ Given w) (default v : Value) :
    Effective Given default v ↔ found.getD default = v := by
  cases found with
  | none =>
      have hnone : ∀ w, ¬Given w := fun w hw => by
        cases (hfound w).mpr hw
      simp [Effective, hnone, eq_comm]
  | some w =>
      have hgiven (u : Value) : Given u ↔ w = u := by
        rw [← hfound, Option.some.injEq]
      simp [Effective, hgiven]

/-- The effective value is the one that is given, if only one is. -/
theorem Effective.eq_of_given {Given : Value → Prop} {default v w : Value}
    (h : Effective Given default v)
    (hunique : ∀ {a b : Value}, Given a → Given b → a = b) (hw : Given w) :
    w = v := by
  rcases h with hv | ⟨-, hnone⟩
  · exact hunique hw hv
  · exact absurd hw (hnone w)

theorem Effective.unique {Given : Value → Prop} {default v w : Value}
    (hv : Effective Given default v)
    (hunique : ∀ {a b : Value}, Given a → Given b → a = b)
    (hw : Effective Given default w) : v = w := by
  rcases hw with hw | ⟨rfl, hnone⟩
  · exact (hv.eq_of_given hunique hw).symm
  · rcases hv with hv | ⟨rfl, -⟩
    · exact absurd hv (hnone v)
    · rfl

theorem exists_effective (Given : Value → Prop) (default : Value) :
    ∃ v, Effective Given default v := by
  by_cases hgiven : ∃ v, Given v
  · obtain ⟨v, hv⟩ := hgiven
    exact ⟨v, .inl hv⟩
  · exact ⟨default, .inr ⟨rfl, fun v hv => hgiven ⟨v, hv⟩⟩⟩

/-- Where nothing but counts is given, a count is effective. -/
theorem exists_effective_count {Given : Value → Prop}
    (hgiven : ∀ v, Given v → ∃ n : Nat, v = .count n) (default : Nat) :
    ∃ n : Nat, Effective Given (.count default) (.count n) := by
  obtain ⟨v, hv | ⟨rfl, hnone⟩⟩ := exists_effective Given (.count default)
  · obtain ⟨n, rfl⟩ := hgiven v hv
    exact ⟨n, .inl hv⟩
  · exact ⟨default, .inr ⟨rfl, hnone⟩⟩

end Value

end TokenSplit
