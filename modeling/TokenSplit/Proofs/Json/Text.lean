import TokenSplit.Json

/-!
# Written texts

Every character has an escape that reads back as the character alone, so a text between quotes is
read back up to its closing quote.  Escapes use printable ASCII only.
-/

namespace TokenSplit

namespace Text

/-- The last digit of a padded number stands behind the others. -/
theorem hexDigits_succ (width n : Nat) :
    hexDigits (width + 2) n =
      hexDigits (width + 1) (n / 16) ++ [(n % 16).digitChar] := by
  unfold hexDigits
  by_cases hn : n < 16
  · have hzero : n / 16 = 0 := by omega
    rw [hzero, Nat.mod_eq_of_lt hn, Nat.toDigits_of_lt_base hn,
      Nat.toDigits_zero]
    simp [List.replicate_succ']
  · rw [Nat.toDigits_of_base_le (by decide) (Nat.not_lt.mp hn)]
    simp

/-- The four digits of a number below `0x10000`. -/
theorem hexDigits_four {n : Nat} (hn : n < 0x10000) :
    hexDigits 4 n =
      [(n / 16 / 16 / 16).digitChar, (n / 16 / 16 % 16).digitChar,
        (n / 16 % 16).digitChar, (n % 16).digitChar] := by
  have hfirst : n / 16 / 16 / 16 < 16 := by omega
  rw [hexDigits_succ, hexDigits_succ, hexDigits_succ, hexDigits,
    Nat.toDigits_of_lt_base hfirst]
  rfl

end Text

namespace Json

theorem toNat_valid (c : Char) :
    c.toNat < 0xD800 ∨ 0xDFFF < c.toNat ∧ c.toNat < 0x110000 :=
  c.valid

/-! ## Code units -/

theorem hexValue?_digitChar {d : Nat} (hd : d < 16) :
    hexValue? d.digitChar = some d := by
  have hall : ∀ d < 16, hexValue? d.digitChar = some d := by decide
  exact hall d hd

/-- A code unit is read from its four digits. -/
theorem unit?_hexDigits {n : Nat} (hn : n < 0x10000) (rest : List Char) :
    unit? (Text.hexDigits 4 n ++ rest) = some (n, rest) := by
  have hmod (k : Nat) : k % 16 < 16 := Nat.mod_lt k (by decide)
  have hfirst : n / 16 / 16 / 16 < 16 := by omega
  rw [Text.hexDigits_four hn]
  simp only [List.cons_append, List.nil_append, unit?,
    hexValue?_digitChar hfirst, hexValue?_digitChar (hmod _),
    Option.bind_eq_bind, Option.bind_some, Option.pure_def]
  congr 2
  omega

/-- A character within sixteen bits is read from its code unit. -/
theorem escapedUnit?_single {c : Char} (hc : c.toNat < 0x10000)
    (rest : List Char) :
    escapedUnit? (Text.hexDigits 4 c.toNat ++ rest) = some (c, rest) := by
  have hvalid : c.toNat < 0xD800 ∨ 0xDFFF < c.toNat := by
    rcases toNat_valid c with h | h
    · exact Or.inl h
    · exact Or.inr h.1
  simp [escapedUnit?, unit?_hexDigits hc, hvalid]

/-- A character beyond sixteen bits is read from its pair of code units. -/
theorem escapedUnit?_pair {a b : Nat} (ha : a < 0x400) (hb : b < 0x400)
    (rest : List Char) :
    escapedUnit?
        (Text.hexDigits 4 (0xD800 + a) ++
          '\\' :: 'u' :: (Text.hexDigits 4 (0xDC00 + b) ++ rest)) =
      some (Char.ofNat (0x10000 + a * 0x400 + b), rest) := by
  have hhigh : 0xD800 + a < 0x10000 := by omega
  have hlow : 0xDC00 + b < 0x10000 := by omega
  have hsurrogate : ¬(0xD800 + a < 0xD800 ∨ 0xDFFF < 0xD800 + a) := by omega
  have hpair :
      0xD800 + a < 0xDC00 ∧ 0xDC00 ≤ 0xDC00 + b ∧ 0xDC00 + b ≤ 0xDFFF := by
    omega
  simp only [escapedUnit?, unit?_hexDigits hhigh, unit?_hexDigits hlow,
    Option.bind_eq_bind, Option.bind_some, if_neg hsurrogate, if_pos hpair,
    Option.pure_def, Nat.add_sub_cancel_left]

/-- An escape by code; for a number that is no variable, unfolding would count its digits. -/
theorem escapeUnit_append (n : Nat) (rest : List Char) :
    escapeUnit n ++ rest = '\\' :: 'u' :: (Text.hexDigits 4 n ++ rest) :=
  rfl

/-! ## Reading texts back -/

theorem readText_plain {fuel : Nat} {c : Char} {rest s after : List Char}
    (hquote : c ≠ '"') (hslash : c ≠ '\\') (hc : 0x20 ≤ c.toNat)
    (hrest : readText fuel rest = some (s, after)) :
    readText (fuel + 1) (c :: rest) = some (c :: s, after) := by
  simp [readText, hslash, Nat.not_lt.mpr hc, hrest]

theorem readText_unit {fuel : Nat} {c : Char} {code rest s after : List Char}
    (hcode : escapedUnit? code = some (c, rest))
    (hrest : readText fuel rest = some (s, after)) :
    readText (fuel + 1) ('\\' :: 'u' :: code) = some (c :: s, after) := by
  simp [readText, hcode, hrest]

/-- The escape of a character is read as the character. -/
theorem readText_escapeChar {fuel : Nat} {rest s after : List Char}
    (hrest : readText fuel rest = some (s, after)) (c : Char) :
    readText (fuel + 1) (escapeChar c ++ rest) = some (c :: s, after) := by
  unfold escapeChar
  by_cases hquote : c = '"'
  · simp [readText, hquote, hrest]
  by_cases hslash : c = '\\'
  · simp [readText, hslash, hrest]
  by_cases hfeed : c = '\n'
  · simp [readText, hfeed, hrest]
  by_cases hreturn : c = '\r'
  · simp [readText, hreturn, hrest]
  by_cases htab : c = '\t'
  · simp [readText, htab, hrest]
  by_cases hform : c.toNat = 0x0C
  · have hc : c = '\x0c' := Char.toNat_inj.mp hform
    simp [readText, hc, hrest]
  by_cases hback : c.toNat = 0x08
  · have hc : c = '\x08' := Char.toNat_inj.mp hback
    simp [readText, hc, hrest]
  simp only [hquote, hslash, hfeed, hreturn, htab, hform, hback, if_false]
  by_cases hplain : 0x20 ≤ c.toNat ∧ c.toNat < 0x7F
  · rw [if_pos hplain]
    exact readText_plain hquote hslash hplain.1 hrest
  rw [if_neg hplain]
  by_cases hsingle : c.toNat < 0x10000
  · rw [if_pos hsingle, escapeUnit_append]
    exact readText_unit (escapedUnit?_single hsingle rest) hrest
  · have hvalid := (toNat_valid c).resolve_left (by omega)
    have hhigh : (c.toNat - 0x10000) / 0x400 < 0x400 := by omega
    have hlow : (c.toNat - 0x10000) % 0x400 < 0x400 := by omega
    have hchar :
        0x10000 + (c.toNat - 0x10000) / 0x400 * 0x400 +
          (c.toNat - 0x10000) % 0x400 = c.toNat := by
      omega
    have hpair := escapedUnit?_pair hhigh hlow rest
    rw [hchar, Char.ofNat_toNat] at hpair
    rw [if_neg hsingle, List.append_assoc, escapeUnit_append, escapeUnit_append]
    exact readText_unit hpair hrest

theorem escapeChar_ne_nil (c : Char) : escapeChar c ≠ [] := by
  unfold escapeChar escapeUnit
  grind

/-- A written text is read back up to its closing quote.  Every escape takes at least one place,
so the length of what is written is fuel enough. -/
theorem readText_flatMap_escapeChar (s rest : List Char) {fuel : Nat}
    (hfuel : (s.flatMap escapeChar).length < fuel) :
    readText fuel (s.flatMap escapeChar ++ '"' :: rest) = some (s, rest) := by
  induction s generalizing fuel with
  | nil =>
      obtain ⟨fuel, rfl⟩ :=
        Nat.exists_eq_add_one_of_ne_zero (Nat.ne_zero_of_lt hfuel)
      rfl
  | cons c s ih =>
      have hc := List.length_pos_iff.mpr (escapeChar_ne_nil c)
      obtain ⟨fuel, rfl⟩ :=
        Nat.exists_eq_add_one_of_ne_zero (Nat.ne_zero_of_lt hfuel)
      rw [List.flatMap_cons, List.length_append] at hfuel
      rw [List.flatMap_cons, List.append_assoc]
      exact readText_escapeChar (ih (by omega)) c

theorem printText_append (s : String) (rest : List Char) :
    printText s.toList ++ rest =
      '"' :: (s.toList.flatMap escapeChar ++ '"' :: rest) := by
  simp [printText]

/-! ## Printable characters -/

/-- A character of printable ASCII, which no line end is. -/
def IsPlain (c : Char) : Prop :=
  0x20 ≤ c.toNat ∧ c.toNat < 0x7F

instance (c : Char) : Decidable (IsPlain c) :=
  inferInstanceAs (Decidable (_ ∧ _))

theorem isPlain_of_all {s : List Char} (hs : s.all IsPlain) :
    ∀ c ∈ s, IsPlain c := by
  simpa using hs

theorem isPlain_digitChar {d : Nat} (hd : d < 16) : IsPlain d.digitChar := by
  have hall : ∀ d < 16, IsPlain d.digitChar := by decide
  exact hall d hd

theorem isPlain_of_mem_escapeUnit {n : Nat} (hn : n < 0x10000) :
    ∀ c ∈ escapeUnit n, IsPlain c := by
  have hmod (k : Nat) : k % 16 < 16 := Nat.mod_lt k (by decide)
  have hfirst : n / 16 / 16 / 16 < 16 := by omega
  intro c hc
  rw [escapeUnit, Text.hexDigits_four hn] at hc
  simp only [List.mem_cons, List.not_mem_nil, or_false] at hc
  rcases hc with rfl | rfl | rfl | rfl | rfl | rfl
  · decide
  · decide
  · exact isPlain_digitChar hfirst
  · exact isPlain_digitChar (hmod _)
  · exact isPlain_digitChar (hmod _)
  · exact isPlain_digitChar (hmod _)

theorem isPlain_of_mem_escapeChar (c : Char) :
    ∀ d ∈ escapeChar c, IsPlain d := by
  have hvalid := toNat_valid c
  simp only [escapeChar]
  -- seven marked escapes, then the character itself and its two forms by code
  split
  · exact isPlain_of_all (by decide)
  split
  · exact isPlain_of_all (by decide)
  split
  · exact isPlain_of_all (by decide)
  split
  · exact isPlain_of_all (by decide)
  split
  · exact isPlain_of_all (by decide)
  split
  · exact isPlain_of_all (by decide)
  split
  · exact isPlain_of_all (by decide)
  split
  next hplain =>
    intro d hd
    rw [List.mem_singleton.mp hd]
    exact hplain
  split
  next hsingle => exact isPlain_of_mem_escapeUnit hsingle
  next hpair =>
    intro d hd
    rcases List.mem_append.mp hd with hd | hd
    · exact isPlain_of_mem_escapeUnit (by omega) d hd
    · exact isPlain_of_mem_escapeUnit (by omega) d hd

theorem isPlain_of_mem_printText (s : List Char) :
    ∀ c ∈ printText s, IsPlain c := by
  intro c hc
  simp only [printText, List.cons_append, List.mem_cons, List.mem_append,
    List.mem_flatMap, List.not_mem_nil, or_false] at hc
  rcases hc with rfl | ⟨d, -, hc⟩ | rfl
  · decide
  · exact isPlain_of_mem_escapeChar d c hc
  · decide

end Json

end TokenSplit
