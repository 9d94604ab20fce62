import TokenSplit.CommandLine.Report
import TokenSplit.Proofs.Allocation

/-!
# Reporting counts

For an integer count and an output that is an integer or not given, a usage holds nothing but
integers.  It exists unless one of the two is below zero, and the count is looked at first.  The
document of such a usage loses nothing of it.
-/

namespace TokenSplit

open CommandLine.Report (outputValue)

namespace Usage

/-- The names of a usage, in written order. -/
def keys (u : Usage) : List String :=
  u.entries.map Prod.fst

/-- The usage that holds integers under names. -/
def ofIntegers (fields : List (String × Int)) : Usage :=
  ⟨fields.map fun (key, n) => (key, .int n)⟩

/-- The named integers of a mapping, if it holds nothing else. -/
def fieldsOf? : List (String × Json) → Option (List (String × Int))
  | [] => some []
  | (key, .int n) :: entries => (fieldsOf? entries).map ((key, n) :: ·)
  | _ :: _ => none

/-- The usage that a document shows, which has to be a mapping to integers. -/
def ofDocument? : Json → Option Usage
  | .mapping entries => (fieldsOf? entries).map ofIntegers
  | _ => none

@[simp] theorem integers_ofIntegers (fields : List (String × Int)) :
    (ofIntegers fields).integers = fields := by
  induction fields with
  | nil => rfl
  | cons field fields ih =>
      simp only [integers, ofIntegers, List.map_cons, List.filterMap_cons,
        Value.integer?, Option.map_some] at ih ⊢
      rw [ih]

theorem document_ofIntegers (fields : List (String × Int)) :
    (ofIntegers fields).document =
      .mapping (fields.map fun (key, n) => (key, .int n)) := by
  rw [document, integers_ofIntegers]

/-- The document of a usage of integers shows that usage. -/
theorem ofDocument?_document (fields : List (String × Int)) :
    ofDocument? (ofIntegers fields).document = some (ofIntegers fields) := by
  have hfields :
      fieldsOf? (fields.map fun (key, n) => (key, Json.int n)) =
        some fields := by
    induction fields with
    | nil => rfl
    | cons field fields ih =>
        rw [List.map_cons, fieldsOf?, ih]
        rfl
  rw [document_ofIntegers, ofDocument?, hfields]
  rfl

end Usage

/-- Nothing, or a number that is not below zero; a flag counts as a number. -/
def Value.IsOutput : Value → Prop
  | .null => True
  | .bool _ => True
  | .int n => 0 ≤ n
  | .float x => ¬x < 0.0
  | _ => False

/-- An output that can be compared with zero is refused just where it is below. -/
theorem checkOutput_of_isNegative {output : Value} {negative : Bool}
    (hgiven : output.isNull = false)
    (hnegative : output.isNegative = .ok negative) :
    checkOutput output =
      if negative then .error .outputNegative else .ok () := by
  rw [checkOutput, hgiven, hnegative]
  cases negative <;> rfl

theorem checkOutput_eq_ok_iff {output : Value} {u : Unit} :
    checkOutput output = .ok u ↔ output.IsOutput := by
  cases output with
  | scalar s =>
      cases s with
      | null => exact iff_of_true rfl trivial
      | bool b => cases b <;> exact iff_of_true rfl trivial
      | int n =>
          have hnegative : (Value.int n).isNegative = .ok (decide (n < 0)) :=
            rfl
          rw [checkOutput_of_isNegative rfl hnegative]
          by_cases hn : n < 0
          · simp [hn, Value.IsOutput]
          · simp [hn, Value.IsOutput, Int.not_lt.mp hn]
      | float x =>
          have hnegative :
              (Value.float x).isNegative = .ok (decide (x < 0.0)) := rfl
          rw [checkOutput_of_isNegative rfl hnegative]
          by_cases hx : x < 0.0
          · simp [hx, Value.IsOutput]
          · simp [hx, Value.IsOutput]
      | _ => exact iff_of_false nofun id
  | _ => exact iff_of_false nofun id

namespace Split

/-- What the usage of a split holds, in written order. -/
def fields (s : Split) (output : Option Int) (omitEmpty : Value) :
    List (String × Int) :=
  let cache : List (String × Int) :=
    if s.HasCache ∨ omitEmpty.isTrue = false then
      [(Usage.creationKey, s.creation), (Usage.readKey, s.read)]
    else
      []
  (Usage.inputKey, (s.input : Int)) :: cache ++
    output.toList.map (Usage.outputKey, ·)

/-- The entries that a split is reported with: those of the cache stay away where they hold no
tokens and are to be left out, that of the output where nothing is given. -/
def entries (s : Split) (output omitEmpty : Value) : List (String × Value) :=
  let cache : List (String × Value) :=
    if s.HasCache ∨ omitEmpty.isTrue = false then
      [(Usage.creationKey, .count s.creation), (Usage.readKey, .count s.read)]
    else
      []
  let last : List (String × Value) :=
    if output.isNull then [] else [(Usage.outputKey, output)]
  (Usage.inputKey, .count s.input) :: cache ++ last

theorem hasCache_breakdown (s : Split) :
    s.breakdown.hasCache = .ok (decide s.HasCache) := by
  have hpositive (n : Nat) :
      (Value.count n).isPositive = .ok (decide (0 < n)) := by
    simp [Value.isPositive, Scalar.asInt?]
  simp only [breakdown, Breakdown.hasCache, hpositive, bind, Except.bind]
  by_cases hcreation : 0 < s.creation
  · simp [HasCache, hcreation, pure, Except.pure]
  · simp [HasCache, hcreation]

/-- A split is reported with every value that can be an output, and with no other. -/
theorem usage_eq_ok_iff (s : Split) {output omitEmpty : Value}
    {usage : Usage} :
    s.breakdown.usage output omitEmpty = .ok usage ↔
      output.IsOutput ∧ usage = ⟨s.entries output omitEmpty⟩ := by
  have hshown : (decide s.HasCache || !omitEmpty.isTrue) = true ↔
      s.HasCache ∨ omitEmpty.isTrue = false := by
    simp
  have hentries : s.entries output omitEmpty =
      (Usage.inputKey, s.breakdown.input) ::
        (if (decide s.HasCache || !omitEmpty.isTrue) = true then
          [(Usage.creationKey, s.breakdown.creation),
            (Usage.readKey, s.breakdown.read)]
        else []) ++
      (if output.isNull then [] else [(Usage.outputKey, output)]) := by
    simp only [entries, hshown]
    rfl
  rw [Breakdown.usage, bind_eq_ok_iff, hentries]
  simp only [checkOutput_eq_ok_iff, hasCache_breakdown]
  constructor
  · rintro ⟨-, houtput, husage⟩
    exact ⟨houtput, (Except.ok.inj husage).symm⟩
  · rintro ⟨houtput, rfl⟩
    exact ⟨(), houtput, rfl⟩

theorem exists_usage_iff (s : Split) (output omitEmpty : Value) :
    (∃ usage, s.breakdown.usage output omitEmpty = .ok usage) ↔
      output.IsOutput := by
  constructor
  · rintro ⟨usage, husage⟩
    exact (s.usage_eq_ok_iff.mp husage).1
  · intro houtput
    exact ⟨_, s.usage_eq_ok_iff.mpr ⟨houtput, rfl⟩⟩

/-- The names come in a fixed order, and those of the cache come together. -/
theorem keys_entries (s : Split) (output omitEmpty : Value) :
    Usage.keys ⟨s.entries output omitEmpty⟩ =
      Usage.inputKey ::
        (if s.HasCache ∨ omitEmpty.isTrue = false then
          [Usage.creationKey, Usage.readKey]
        else []) ++
      (if output.isNull then [] else [Usage.outputKey]) := by
  by_cases hcache : s.HasCache ∨ omitEmpty.isTrue = false
  · cases houtput : output.isNull <;>
      simp [Usage.keys, entries, hcache, houtput]
  · cases houtput : output.isNull <;>
      simp [Usage.keys, entries, hcache, houtput]

theorem mem_keys_entries_iff (s : Split) (output omitEmpty : Value)
    {key : String} (hkey : key ∈ [Usage.creationKey, Usage.readKey]) :
    key ∈ Usage.keys ⟨s.entries output omitEmpty⟩ ↔
      s.HasCache ∨ omitEmpty.isTrue = false := by
  have hinput : key ≠ Usage.inputKey := by
    rintro rfl
    exact absurd hkey (by decide)
  have houtput : key ∉ (if output.isNull then [] else [Usage.outputKey]) := by
    cases output.isNull
    · rw [if_neg Bool.false_ne_true, List.mem_singleton]
      rintro rfl
      exact absurd hkey (by decide)
    · exact List.not_mem_nil
  rw [keys_entries, List.mem_append, or_iff_left houtput, List.mem_cons,
    or_iff_right hinput]
  by_cases hcache : s.HasCache ∨ omitEmpty.isTrue = false
  · rw [if_pos hcache]
    exact iff_of_true hkey hcache
  · rw [if_neg hcache]
    exact iff_of_false List.not_mem_nil hcache

theorem entries_outputValue (s : Split) (output : Option Int)
    (omitEmpty : Value) :
    (⟨s.entries (outputValue output) omitEmpty⟩ : Usage) =
      Usage.ofIntegers (s.fields output omitEmpty) := by
  by_cases hcache : s.HasCache ∨ omitEmpty.isTrue = false <;>
    cases output <;>
      simp [entries, fields, hcache, Usage.ofIntegers, outputValue,
        Value.isNull]

/-- A split is reported with every output that is not below zero. -/
theorem usage_of_nonneg (s : Split) {output : Option Int}
    (houtput : ∀ n ∈ output, 0 ≤ n) (omitEmpty : Value) :
    s.breakdown.usage (outputValue output) omitEmpty =
      .ok (Usage.ofIntegers (s.fields output omitEmpty)) := by
  rw [usage_eq_ok_iff]
  refine ⟨?_, (s.entries_outputValue output omitEmpty).symm⟩
  cases output with
  | none => trivial
  | some n => exact houtput n rfl

/-- An output below zero is refused whatever the split. -/
theorem usage_of_neg (s : Split) {n : Int} (hn : n < 0) (omitEmpty : Value) :
    s.breakdown.usage (.int n) omitEmpty = .error .outputNegative := by
  have hnegative : (Value.int n).isNegative = .ok true := by
    simp only [Value.isNegative, Scalar.asInt?, hn, decide_true]
  have hchecked : checkOutput (.int n) = .error .outputNegative :=
    checkOutput_of_isNegative rfl hnegative
  simp only [Breakdown.usage, hchecked, bind, Except.bind]

end Split

namespace Ratio

/-- Reporting an integer count refuses the count, or else refuses the output, or else gives a
usage of integers. -/
theorem report_cases (r : Ratio) (total : Int) (output : Option Int)
    (omitEmpty : Value) :
    (total < 0 ∧
      (r.report (.int total) (outputValue output) omitEmpty).result =
        .error .totalNegative) ∨
    (0 ≤ total ∧ (∃ n ∈ output, n < 0) ∧
      (r.report (.int total) (outputValue output) omitEmpty).result =
        .error .outputNegative) ∨
    (0 ≤ total ∧ (∀ n ∈ output, 0 ≤ n) ∧
      (r.report (.int total) (outputValue output) omitEmpty).result =
        .ok (.ofIntegers ((r.split total.toNat).fields output omitEmpty))) := by
  by_cases htotal : total < 0
  · exact .inl ⟨htotal, r.report_of_fault (Value.tokens_int_of_neg htotal) _ _⟩
  have htotal := Int.not_lt.mp htotal
  rw [r.report_of_tokens (Value.tokens_int_of_nonneg htotal)]
  by_cases houtput : ∀ n ∈ output, 0 ≤ n
  · exact .inr (.inr ⟨htotal, houtput, Split.usage_of_nonneg _ houtput _⟩)
  · cases output with
    | none => exact absurd (fun n hn => by simp at hn) houtput
    | some n =>
        have hn : n < 0 := by simpa using houtput
        exact .inr (.inl ⟨htotal, ⟨n, rfl, hn⟩, Split.usage_of_neg _ hn _⟩)

/-- An integer count is reported exactly if neither it nor the output is below zero. -/
theorem exists_report_iff (r : Ratio) (total : Int) (output : Option Int)
    (omitEmpty : Value) :
    (∃ usage,
      (r.report (.int total) (outputValue output) omitEmpty).result =
        .ok usage) ↔
      0 ≤ total ∧ ∀ n ∈ output, 0 ≤ n := by
  rcases r.report_cases total output omitEmpty with
    ⟨htotal, hresult⟩ | ⟨-, ⟨n, hmem, hn⟩, hresult⟩ |
      ⟨htotal, houtput, hresult⟩
  · simp [hresult, Int.not_le.mpr htotal]
  · constructor
    · rintro ⟨usage, husage⟩
      simp [hresult] at husage
    · rintro ⟨-, houtput⟩
      exact absurd (houtput n hmem) (Int.not_le.mpr hn)
  · simp only [hresult, htotal, true_and]
    exact ⟨fun _ => houtput, fun _ => ⟨_, rfl⟩⟩

/-- What is reported for an integer count holds integers alone. -/
theorem exists_fields_of_report (r : Ratio) {total : Int}
    {output : Option Int} {omitEmpty : Value} {usage : Usage}
    (husage :
      (r.report (.int total) (outputValue output) omitEmpty).result =
        .ok usage) :
    ∃ fields, usage = Usage.ofIntegers fields := by
  rcases r.report_cases total output omitEmpty with
    ⟨-, hresult⟩ | ⟨-, -, hresult⟩ | ⟨-, -, hresult⟩
  · simp [hresult] at husage
  · simp [hresult] at husage
  · rw [hresult] at husage
    exact ⟨_, (Except.ok.inj husage).symm⟩

end Ratio

/-- What the library reports for an integer count and an output. -/
def Config.reported (config : Config) (total : Int) (output : Option Int) :
    Except Fault Usage :=
  (config.ratio.report (.int total) (outputValue output)
    config.omitEmpty).result

end TokenSplit
