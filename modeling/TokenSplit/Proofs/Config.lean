import TokenSplit.Config.Load
import TokenSplit.Proofs.Arguments
import TokenSplit.Proofs.Yaml

/-!
# Which values are configurations

A configuration is acceptable by what its mappings hold, in whatever order.  Loading gives a
configuration exactly for the acceptable values, every part of it is what is given or else the
default, and all other values are refused as values.  The order in which unknown keys are listed has
no part in that, and neither has how a document is read.
-/

namespace TokenSplit

namespace Config

/-! ## What the steps accept -/

section

variable {arrangement : Arrangement}

theorem checkKeys_eq_ok_iff {place : Section} {known : List String}
    {entries : List (Scalar × Value)} {u : Unit} :
    checkKeys arrangement place known entries = .ok u ↔
      ∀ e ∈ entries, ∃ name ∈ known, e.1 = .text name := by
  have hknown :
      ((entries.map (·.1)).filter fun key =>
        !known.any fun name => key.same (.text name)) = [] ↔
        ∀ e ∈ entries, ∃ name ∈ known, e.1 = .text name := by
    simp [List.filter_eq_nil_iff, Scalar.same_text_iff]
  rw [← hknown, checkKeys]
  cases (entries.map (·.1)).filter fun key =>
      !known.any fun name => key.same (.text name) with
  | nil => simp [pure, Except.pure]
  | cons key keys =>
      simp only [List.isEmpty_cons, Bool.false_eq_true, if_false]
      split <;> simp

theorem checkKeys_failsAs (place : Section) (known : List String)
    (entries : List (Scalar × Value)) :
    FailsAs .value (checkKeys arrangement place known entries) := by
  simp only [checkKeys]
  split
  · exact .ok ()
  split
  · exact .error rfl
  · exact .error rfl

theorem checkNatural_eq_ok_iff {fault : Fault} {v : Value} {u : Unit} :
    checkNatural fault v = .ok u ↔ ∃ n : Nat, v = .count n := by
  unfold checkNatural
  split
  next m =>
    split
    next hm =>
      simp only [reduceCtorEq, Value.scalar.injEq, Scalar.int.injEq, false_iff]
      rintro ⟨n, rfl⟩
      exact absurd hm (Int.not_lt.mpr (Int.natCast_nonneg n))
    next hm =>
      have hcount : (m.toNat : Int) = m :=
        Int.toNat_of_nonneg (Int.not_lt.mp hm)
      exact iff_of_true rfl ⟨m.toNat, congrArg Value.int hcount.symm⟩
  next hint =>
    simp only [reduceCtorEq, false_iff]
    rintro ⟨n, rfl⟩
    exact hint n rfl

theorem eq_of_checkNatural {fault other : Fault} {v : Value}
    (h : checkNatural fault v = .error other) : other = fault := by
  unfold checkNatural at h
  split at h
  · split at h
    · exact (Except.error.inj h).symm
    · cases h
  · exact (Except.error.inj h).symm

theorem checkNatural_failsAs {fault : Fault} (hfault : fault.family = .value)
    (v : Value) : FailsAs .value (checkNatural fault v) := by
  intro other h
  rw [eq_of_checkNatural h]
  exact hfault

/-- A section of parts and a threshold give a ratio exactly if the keys are known and the four
numbers of the ratio are those that are given, with the standard parts where none are. -/
theorem ratioOf_eq_ok_iff {given threshold : Value} {ratio : Ratio} :
    ratioOf arrangement given threshold = .ok ratio ↔
      given.HasKeysAmong ratioKeys ∧
      (given.held? "input").getD (.count 1) = .count ratio.input ∧
      (given.held? "cache_creation").getD (.count 2) =
        .count ratio.creation ∧
      (given.held? "cache_read").getD (.count 25) = .count ratio.read ∧
      threshold = .count ratio.threshold := by
  cases given with
  | mapping entries =>
      simp only [ratioOf, bind_eq_ok_iff, checkKeys_eq_ok_iff,
        checkNatural_eq_ok_iff, Ratio.ofValues_eq_ok_iff]
      constructor
      · rintro ⟨-, hkeys, -, -, -, -, -, -, -, -, hmade⟩
        exact ⟨⟨entries, rfl, hkeys⟩, hmade⟩
      · rintro ⟨⟨_, hentries, hkeys⟩, hinput, hcreation, hread, hthreshold⟩
        cases hentries
        exact ⟨(), hkeys, (), ⟨_, hinput⟩, (), ⟨_, hcreation⟩, (), ⟨_, hread⟩,
          (), ⟨_, hthreshold⟩, hinput, hcreation, hread, hthreshold⟩
  | _ =>
      simp [ratioOf, Value.HasKeysAmong]

theorem ratioOf_failsAs (given threshold : Value) :
    FailsAs .value (ratioOf arrangement given threshold) := by
  unfold ratioOf
  split
  next entries =>
    refine .bind (checkKeys_failsAs _ _ _) fun _ => ?_
    refine .bind (checkNatural_failsAs rfl _) fun _ => ?_
    refine .bind (checkNatural_failsAs rfl _) fun _ => ?_
    refine .bind (checkNatural_failsAs rfl _) fun _ => ?_
    refine .bind (checkNatural_failsAs rfl _) fun _ => ?_
    intro fault h
    exact (Ratio.isFault_of_ofValues h).family_eq
  · exact .error rfl

theorem omissionOf_eq_ok_iff {given : Value} {b : Bool} :
    omissionOf arrangement given = .ok b ↔
      given.HasKeysAmong reportKeys ∧
      (given.held? "omit_empty_cache_fields").getD (.bool true) =
        .bool b := by
  cases given with
  | mapping entries =>
      simp only [omissionOf, bind_eq_ok_iff, checkKeys_eq_ok_iff,
        Value.HasKeysAmong, Value.held?]
      constructor
      · rintro ⟨-, hkeys, hflag⟩
        refine ⟨⟨entries, rfl, hkeys⟩, ?_⟩
        split at hflag
        next hfound =>
          rw [hfound]
          cases hflag
          rfl
        · cases hflag
      · rintro ⟨⟨_, hentries, hkeys⟩, hflag⟩
        cases hentries
        refine ⟨(), hkeys, ?_⟩
        rw [hflag]
        rfl
  | _ =>
      simp [omissionOf, Value.HasKeysAmong]

theorem omissionOf_failsAs (given : Value) :
    FailsAs .value (omissionOf arrangement given) := by
  unfold omissionOf
  split
  next entries =>
    refine .bind (checkKeys_failsAs _ _ _) fun _ => ?_
    split
    · exact .ok _
    · exact .error rfl
  · exact .error rfl

/-- A value gives a configuration exactly if it is a mapping with something in it, its keys are
known, and its sections give the parts of the configuration. -/
theorem ofValue_eq_ok_iff {given : Value} {config : Config} :
    ofValue arrangement given = .ok config ↔
      given ≠ .mapping [] ∧ given.HasKeysAmong topKeys ∧
      ratioOf arrangement (given.inner "ratio")
        ((given.held? "threshold").getD (.count 100)) = .ok config.ratio ∧
      ∃ b, omissionOf arrangement (given.inner "report") = .ok b ∧
        config.omitEmpty = .bool b := by
  cases given with
  | mapping entries =>
      simp only [ofValue]
      split
      next hempty =>
        have hnil : entries = [] := by
          simpa [Value.isTrue] using hempty
        simp [hnil]
      next hfull =>
        have hnil : entries ≠ [] := by
          simpa [Value.isTrue] using hfull
        simp only [bind_eq_ok_iff, checkKeys_eq_ok_iff]
        constructor
        · rintro ⟨-, hkeys, ratio, hratio, omission, homission, hconfig⟩
          cases hconfig
          exact ⟨by simpa using hnil, ⟨entries, rfl, hkeys⟩, hratio,
            omission, homission, rfl⟩
        · rintro ⟨-, ⟨_, hentries, hkeys⟩, hratio, omission, homission,
            hconfig⟩
          cases hentries
          refine ⟨(), hkeys, _, hratio, omission, homission, ?_⟩
          rw [← hconfig]
          rfl
  | _ =>
      simp only [ofValue, Value.HasKeysAmong]
      split <;> simp

theorem ofValue_failsAs (given : Value) :
    FailsAs .value (ofValue arrangement given) := by
  simp only [ofValue]
  split
  · exact .error rfl
  split
  next entries =>
    refine .bind (checkKeys_failsAs _ _ _) fun _ => ?_
    refine .bind (ratioOf_failsAs _ _) fun _ => ?_
    refine .bind (omissionOf_failsAs _) fun _ => ?_
    exact .ok _
  · exact .error rfl

end

/-! ## Acceptable values -/

/-- The value is a mapping with something in it and with known keys, and its sections are
mappings with known keys to values of the right kind.  The parts that come of it are not all
zero. -/
structure Acceptable (given : Value) : Prop where
  nonempty : given ≠ .mapping []
  keys : given.HasKeysAmong ["ratio", "threshold", "report"]
  ratio_keys : ∀ ratio, given.Holds "ratio" ratio →
    ratio.HasKeysAmong ["input", "cache_creation", "cache_read"]
  ratio_values : ∀ name v, given.HoldsIn "ratio" name v →
    ∃ n : Nat, v = .count n
  threshold : ∀ v, given.Holds "threshold" v → ∃ n : Nat, v = .count n
  parts : ¬(Value.Effective (given.HoldsIn "ratio" "input")
      (.count 1) (.count 0) ∧
    Value.Effective (given.HoldsIn "ratio" "cache_creation")
      (.count 2) (.count 0) ∧
    Value.Effective (given.HoldsIn "ratio" "cache_read")
      (.count 25) (.count 0))
  report_keys : ∀ report, given.Holds "report" report →
    report.HasKeysAmong ["omit_empty_cache_fields"]
  omission : ∀ v, given.HoldsIn "report" "omit_empty_cache_fields" v →
    ∃ b, v = .bool b

/-- Every part of the configuration is what is given, or the default where nothing is. -/
structure Reflects (given : Value) (config : Config) : Prop where
  input : Value.Effective (given.HoldsIn "ratio" "input")
    (.count 1) (.count config.ratio.input)
  creation : Value.Effective (given.HoldsIn "ratio" "cache_creation")
    (.count 2) (.count config.ratio.creation)
  read : Value.Effective (given.HoldsIn "ratio" "cache_read")
    (.count 25) (.count config.ratio.read)
  threshold : Value.Effective (given.Holds "threshold")
    (.count 100) (.count config.ratio.threshold)
  omitEmpty : Value.Effective
    (given.HoldsIn "report" "omit_empty_cache_fields")
    (.bool true) config.omitEmpty

/-- For every acceptable value there is a configuration that reflects it. -/
theorem Acceptable.exists_reflects {given : Value} (h : Acceptable given) :
    ∃ config, Reflects given config := by
  obtain ⟨input, hinput⟩ :=
    Value.exists_effective_count (h.ratio_values "input") 1
  obtain ⟨creation, hcreation⟩ :=
    Value.exists_effective_count (h.ratio_values "cache_creation") 2
  obtain ⟨read, hread⟩ :=
    Value.exists_effective_count (h.ratio_values "cache_read") 25
  obtain ⟨threshold, hthreshold⟩ :=
    Value.exists_effective_count h.threshold 100
  have hparts : 0 < input + creation + read := by
    refine Nat.pos_of_ne_zero fun hzero => h.parts ?_
    have hinputZero : input = 0 := by omega
    have hcreationZero : creation = 0 := by omega
    have hreadZero : read = 0 := by omega
    subst hinputZero hcreationZero hreadZero
    exact ⟨hinput, hcreation, hread⟩
  obtain ⟨omitEmpty, homission⟩ := Value.exists_effective
    (given.HoldsIn "report" "omit_empty_cache_fields") (.bool true)
  exact ⟨⟨⟨input, creation, read, threshold, hparts⟩, omitEmpty⟩,
    hinput, hcreation, hread, hthreshold, homission⟩

/-- What a section with known keys holds is what a configuration that reflects it has. -/
theorem Reflects.ratio_values {given : Value} {config : Config}
    (h : Reflects given config) (hgiven : given.WellKeyed)
    (hkeys : (given.inner "ratio").HasKeysAmong ratioKeys)
    (name : String) (v : Value) (hv : given.HoldsIn "ratio" name v) :
    ∃ n : Nat, v = .count n := by
  have hname : name ∈ ratioKeys := by
    obtain ⟨ratio, hratio, hheld⟩ := hv
    rw [Value.inner_of_holds hgiven hratio] at hkeys
    exact hkeys.mem_of_holds hheld
  have hunique (name : String) {a b : Value} :
      given.HoldsIn "ratio" name a → given.HoldsIn "ratio" name b → a = b :=
    Value.HoldsIn.unique hgiven
  simp only [ratioKeys, List.mem_cons, List.not_mem_nil, or_false] at hname
  rcases hname with rfl | rfl | rfl
  · exact ⟨_, h.input.eq_of_given (hunique _) hv⟩
  · exact ⟨_, h.creation.eq_of_given (hunique _) hv⟩
  · exact ⟨_, h.read.eq_of_given (hunique _) hv⟩

/-- The parts of a configuration are not all zero, so neither are those that it reflects. -/
theorem Reflects.parts {given : Value} {config : Config}
    (h : Reflects given config) (hgiven : given.WellKeyed) :
    ¬(Value.Effective (given.HoldsIn "ratio" "input")
        (.count 1) (.count 0) ∧
      Value.Effective (given.HoldsIn "ratio" "cache_creation")
        (.count 2) (.count 0) ∧
      Value.Effective (given.HoldsIn "ratio" "cache_read")
        (.count 25) (.count 0)) := by
  rintro ⟨hinput, hcreation, hread⟩
  have hunique (name : String) {a b : Value} :
      given.HoldsIn "ratio" name a → given.HoldsIn "ratio" name b → a = b :=
    Value.HoldsIn.unique hgiven
  have hinput := h.input.unique (hunique _) hinput
  have hcreation := h.creation.unique (hunique _) hcreation
  have hread := h.read.unique (hunique _) hread
  have hparts := config.ratio.totalParts_pos
  simp only [Value.scalar.injEq, Scalar.int.injEq] at hinput hcreation hread
  simp only [Ratio.totalParts] at hparts
  omega

/-- A value without repeated keys gives a configuration exactly if all its keys are known and
the configuration reflects it. -/
theorem ofValue_eq_ok_iff_of_wellKeyed {arrangement : Arrangement}
    {given : Value} {config : Config} (hgiven : given.WellKeyed) :
    ofValue arrangement given = .ok config ↔
      given ≠ .mapping [] ∧ given.HasKeysAmong topKeys ∧
      (given.inner "ratio").HasKeysAmong ratioKeys ∧
      (given.inner "report").HasKeysAmong reportKeys ∧
      (∃ b, config.omitEmpty = .bool b) ∧ Reflects given config := by
  have hratio (name : String) (default v : Value) :=
    Value.effective_iff
      (Value.held?_inner_eq_some_iff hgiven "ratio" name) default v
  have hthreshold (default v : Value) :=
    Value.effective_iff (Value.held?_eq_some_iff hgiven "threshold") default v
  have homission (default v : Value) :=
    Value.effective_iff (Value.held?_inner_eq_some_iff hgiven "report"
      "omit_empty_cache_fields") default v
  rw [ofValue_eq_ok_iff, ratioOf_eq_ok_iff]
  simp only [omissionOf_eq_ok_iff, ← hratio, ← hthreshold, ← homission]
  constructor
  · rintro ⟨hnonempty, hkeys, ⟨hratioKeys, hinput, hcreation, hread, hcount⟩,
      b, ⟨hreportKeys, hflag⟩, hb⟩
    rw [← hb] at hflag
    exact ⟨hnonempty, hkeys, hratioKeys, hreportKeys, ⟨b, hb⟩,
      hinput, hcreation, hread, hcount, hflag⟩
  · rintro ⟨hnonempty, hkeys, hratioKeys, hreportKeys, ⟨b, hb⟩, h⟩
    refine ⟨hnonempty, hkeys,
      ⟨hratioKeys, h.input, h.creation, h.read, h.threshold⟩, b,
      ⟨hreportKeys, ?_⟩, hb⟩
    rw [← hb]
    exact h.omitEmpty

/-- A value without repeated keys gives a configuration exactly if it is acceptable and the
configuration reflects it. -/
theorem ofValue_eq_ok_iff_reflects {arrangement : Arrangement} {given : Value}
    {config : Config} (hgiven : given.WellKeyed) :
    ofValue arrangement given = .ok config ↔
      Acceptable given ∧ Reflects given config := by
  rw [ofValue_eq_ok_iff_of_wellKeyed hgiven]
  have hsections := Value.hasKeysAmong_inner_iff hgiven
  constructor
  · rintro ⟨hnonempty, hkeys, hratioKeys, hreportKeys, ⟨b, hb⟩, h⟩
    refine ⟨⟨hnonempty, hkeys, (hsections _ _).mp hratioKeys,
      h.ratio_values hgiven hratioKeys, ?_, h.parts hgiven,
      (hsections _ _).mp hreportKeys, ?_⟩, h⟩
    · intro v hv
      exact ⟨_, h.threshold.eq_of_given (Value.Holds.unique hgiven) hv⟩
    · intro v hv
      have hflag := h.omitEmpty.eq_of_given (Value.HoldsIn.unique hgiven) hv
      exact ⟨b, hflag.trans hb⟩
  · rintro ⟨hacceptable, h⟩
    refine ⟨hacceptable.nonempty, hacceptable.keys,
      (hsections _ _).mpr hacceptable.ratio_keys,
      (hsections _ _).mpr hacceptable.report_keys, ?_, h⟩
    rcases h.omitEmpty with hflag | ⟨hflag, -⟩
    · exact hacceptable.omission _ hflag
    · exact ⟨true, hflag⟩

/-! ## Loading -/

theorem load_of_read {host : Host} {path : String} {octets : List UInt8}
    {given : Value}
    (hfile : host.disk.find (Path.ofString path) = .found (.file octets))
    (hread : host.read octets = .ok given) :
    load host path = ofValue host.arrangement given := by
  simp only [load, hfile, ofOctets, hread]

/-- A configuration that is loaded comes of a value that is read from a file. -/
theorem exists_of_load_eq_ok {host : Host} {path : String} {config : Config}
    (hload : load host path = .ok config) :
    ∃ octets given,
      host.disk.find (Path.ofString path) = .found (.file octets) ∧
      host.read octets = .ok given ∧
      ofValue host.arrangement given = .ok config := by
  simp only [load] at hload
  split at hload
  · cases hload
  · cases hload
  · cases hload
  next octets hfile =>
    unfold ofOctets at hload
    split at hload
    next given hread => exact ⟨octets, given, hfile, hread, hload⟩
    · cases hload
    · cases hload

/-- The file at a path gives a configuration exactly if the value that is read from it, whoever reads
it, is acceptable.  The configuration is the one that reflects it, and any other value is refused as
a value.  No mapping in a value has a key twice; for the reader of this library that is shown in
`Yaml.wellKeyed_standard`. -/
theorem load_eq_ok_iff (host : Host) (path : String) {octets : List UInt8}
    {given : Value}
    (hfile : host.disk.find (Path.ofString path) = .found (.file octets))
    (hread : host.read octets = .ok given) (hgiven : given.WellKeyed) :
    (∀ config, load host path = .ok config ↔
      Acceptable given ∧ Reflects given config) ∧
    (Acceptable given → ∃ config, load host path = .ok config) ∧
    (¬Acceptable given →
      ∃ fault, load host path = .error fault ∧ fault.family = .value) := by
  have hiff (config : Config) :
      ofValue host.arrangement given = .ok config ↔
        Acceptable given ∧ Reflects given config :=
    ofValue_eq_ok_iff_reflects hgiven
  rw [load_of_read hfile hread]
  refine ⟨hiff, ?_, ?_⟩
  · intro hacceptable
    obtain ⟨config, hreflects⟩ := hacceptable.exists_reflects
    exact ⟨config, (hiff config).mpr ⟨hacceptable, hreflects⟩⟩
  · intro hrefused
    cases hresult : ofValue host.arrangement given with
    | error fault => exact ⟨fault, rfl, ofValue_failsAs given fault hresult⟩
    | ok config => exact absurd ((hiff config).mp hresult).1 hrefused

theorem load_threshold :
    ∃ disk given config,
      load (Host.standard disk) "config.yaml" = .ok config ∧
      config.ratio.input = 1 ∧ config.ratio.threshold = 5 ∧
      Acceptable given ∧ Reflects given config := by
  let octets : List UInt8 :=
    [116, 104, 114, 101, 115, 104, 111, 108, 100, 58, 32, 53]
  let host := Host.standard (Disk.empty.write "config.yaml" (.file octets))
  have hfile : host.disk.find (Path.ofString "config.yaml") =
      .found (.file octets) := by decide +kernel
  have hread : (host.read octets).toOption.isSome := by decide +kernel
  have hconfig :
      (load host "config.yaml").toOption.map
          (fun c => (c.ratio.input, c.ratio.threshold)) =
        some (1, 5) := by decide +kernel
  cases hgiven : host.read octets with
  | error refusal =>
      rw [hgiven] at hread
      cases hread
  | ok given =>
      cases hload : load host "config.yaml" with
      | error fault =>
          rw [hload] at hconfig
          cases hconfig
      | ok config =>
          rw [hload] at hconfig
          obtain ⟨hinput, hthreshold⟩ :=
            Prod.mk.inj (Option.some.inj hconfig)
          have hreflects :=
            ((load_eq_ok_iff host "config.yaml" hfile hgiven
              (Yaml.wellKeyed_standard hgiven)).1 config).mp hload
          exact ⟨_, given, config, hload, hinput, hthreshold, hreflects⟩

end Config

end TokenSplit
