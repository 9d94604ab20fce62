import TokenSplit.Proofs.Config

/-!
# Two checks of a ratio

The values of a section are checked before a ratio is made of them, and making a ratio checks them
once more.  The two checks agree: a section passes just where its keys are known and its values make
a ratio.  The second check never finds a value that is no natural number, so all that it can still
refuse are parts that are all zero.
-/

namespace TokenSplit.Config

/-! ## What checking a section refuses -/

section

variable {arrangement : Arrangement}

theorem not_isFault_of_checkKeys {place : Section} {known : List String}
    {entries : List (Scalar × Value)} {fault : Fault}
    (h : checkKeys arrangement place known entries = .error fault) :
    ¬Ratio.IsFault fault := by
  simp only [checkKeys] at h
  split at h
  · cases h
  split at h
  · cases h
    intro hfault
    cases hfault
  · cases h
    intro hfault
    cases hfault

/-- What a section and a threshold give for the fields of a ratio, with the standard parts where
the section gives none. -/
def givenFor (given threshold : Value) : Ratio.Field → Value
  | .input => (given.held? "input").getD (.count 1)
  | .creation => (given.held? "cache_creation").getD (.count 2)
  | .read => (given.held? "cache_read").getD (.count 25)
  | .threshold => threshold

theorem ratioOf_eq_ok_iff_isMadeOf {given threshold : Value} {ratio : Ratio} :
    ratioOf arrangement given threshold = .ok ratio ↔
      given.HasKeysAmong ratioKeys ∧
        ratio.IsMadeOf (givenFor given threshold) := by
  rw [ratioOf_eq_ok_iff, Ratio.isMadeOf_iff]
  exact Iff.rfl

/-- What a section and a threshold give, as arguments that a ratio is made of. -/
def argumentsOf (given threshold : Value) : Arguments :=
  .positional (Ratio.Field.all.map (givenFor given threshold))

theorem ofArguments_argumentsOf (given threshold : Value) :
    Ratio.ofArguments (argumentsOf given threshold) =
      Ratio.ofValues (givenFor given threshold .input)
        (givenFor given threshold .creation) (givenFor given threshold .read)
        (givenFor given threshold .threshold) := rfl

/-- Behind the checks of a section, the checks of the ratio that is made of it can only find that all
parts are zero. -/
theorem ratioOf_eq_error_iff {given threshold : Value} {fault : Fault}
    (hfault : Ratio.IsFault fault) :
    ratioOf arrangement given threshold = .error fault ↔
      fault = .noParts ∧ given.HasKeysAmong ratioKeys ∧
        Ratio.ofArguments (argumentsOf given threshold) =
          .error .noParts := by
  cases given with
  | mapping entries =>
      have hkeys : checkKeys arrangement .ratio ratioKeys entries ≠
          .error fault := fun h => not_isFault_of_checkKeys h hfault
      have hpart (name : String) (v : Value) :
          checkNatural (.partInvalid name) v ≠ .error fault := by
        intro h
        cases eq_of_checkNatural h
        cases hfault
      have hthreshold (v : Value) :
          checkNatural .thresholdInvalid v ≠ .error fault := by
        intro h
        cases eq_of_checkNatural h
        cases hfault
      rw [ofArguments_argumentsOf]
      simp only [ratioOf, bind_eq_error_iff, hkeys, hpart, hthreshold, false_or,
        checkKeys_eq_ok_iff, checkNatural_eq_ok_iff]
      constructor
      · rintro ⟨-, hknown, -, ⟨input, hinput⟩, -, ⟨creation, hcreation⟩, -,
          ⟨read, hread⟩, -, ⟨n, rfl⟩, hmade⟩
        -- all four values are natural numbers here, so none is refused on its own
        rw [hinput, hcreation, hread, Ratio.ofValues_count,
          Ratio.ofNumbers_eq_error_iff] at hmade
        obtain ⟨rfl, rfl, rfl, rfl⟩ := hmade
        exact ⟨rfl, ⟨entries, rfl, hknown⟩, Ratio.ofValues_eq_noParts_iff.mpr
          ⟨hinput, hcreation, hread, n, rfl⟩⟩
      · rintro ⟨rfl, ⟨_, hentries, hknown⟩, hmade⟩
        cases hentries
        obtain ⟨hinput, hcreation, hread, hnumber⟩ :=
          Ratio.ofValues_eq_noParts_iff.mp hmade
        exact ⟨(), hknown, (), ⟨0, hinput⟩, (), ⟨0, hcreation⟩, (),
          ⟨0, hread⟩, (), hnumber, hmade⟩
  | _ =>
      refine iff_of_false (fun h => ?_) (by simp [Value.HasKeysAmong])
      cases h
      cases hfault

end

/-! ## Agreement -/

/-- A section and a threshold give a ratio exactly if the section is a mapping with known keys and
the values that it gives make a ratio, which is then the same one; all else is refused as a value.
Of the faults with which a ratio is refused, whatever it is made of, none but that of parts that
are all zero comes out of a section, and that one comes out just where the values of a section
with known keys are refused with it. -/
theorem ratioOf_agrees (arrangement : Arrangement) (given threshold : Value) :
    (∀ ratio, ratioOf arrangement given threshold = .ok ratio ↔
      given.HasKeysAmong ["input", "cache_creation", "cache_read"] ∧
        Ratio.ofArguments (argumentsOf given threshold) = .ok ratio) ∧
    (∀ fault, ratioOf arrangement given threshold = .error fault →
      fault.family = .value ∧
      (∀ args, Ratio.ofArguments args = .error fault → fault = .noParts) ∧
      ∀ field, fault ≠ .fieldNotInteger field ∧
        fault ≠ .fieldNegative field) ∧
    (ratioOf arrangement given threshold = .error .noParts ↔
      given.HasKeysAmong ["input", "cache_creation", "cache_read"] ∧
        Ratio.ofArguments (argumentsOf given threshold) =
          .error .noParts) := by
  refine ⟨fun ratio => ?_, fun fault hfault => ?_, ?_⟩
  · rw [ofArguments_argumentsOf, Ratio.ofValues_eq_ok_iff]
    exact ratioOf_eq_ok_iff
  · have hfamily := ratioOf_failsAs given threshold fault hfault
    have hnoParts (hratio : Ratio.IsFault fault) : fault = .noParts :=
      ((ratioOf_eq_error_iff hratio).mp hfault).1
    refine ⟨hfamily, fun args hargs => ?_, fun field => ⟨?_, ?_⟩⟩
    · rcases Ratio.ofArguments_error_cases hargs with htype | hratio
      · rw [hfamily] at htype
        cases htype
      · exact hnoParts hratio
    · rintro rfl
      cases hnoParts (.notInteger field)
    · rintro rfl
      cases hnoParts (.negative field)
  · rw [ratioOf_eq_error_iff .noParts]
    exact and_iff_right rfl

/-- A single part is taken with the standard ones for the others.  Zeros under all three keys, in any
order, are refused as the ratio of them is. -/
theorem ratioOf_agrees_read :
    ratioOf .sorted (.mapping [(.text "cache_read", .count 7)]) (.count 5) =
      .ok ⟨1, 2, 7, 5, by decide⟩ ∧
    ratioOf .sorted
        (.mapping [(.text "cache_read", .count 0), (.text "input", .count 0),
          (.text "cache_creation", .count 0)]) (.count 5) =
      .error .noParts := by
  refine ⟨((ratioOf_agrees .sorted _ _).1 _).mpr ⟨⟨_, rfl, ?_⟩, rfl⟩,
    (ratioOf_agrees .sorted _ _).2.2.mpr ⟨⟨_, rfl, ?_⟩, rfl⟩⟩
  · simp
  · simp

end TokenSplit.Config
