import TokenSplit.Proofs.Decimal
import TokenSplit.Proofs.Json.Text

/-!
# Reading back what is printed

A printed document is one line of printable characters, and reading that line gives the document.
The reader is given fuel by the length of what it reads.  Inside a document every bracket and every
comma takes one unit of it and at least one character, so twice the length of a part is enough for
the part.
-/

namespace TokenSplit

namespace Json

/-! ## Gaps -/

theorem skip_cons {c : Char} (hc : isGap c = false) (s : List Char) :
    skip (c :: s) = c :: s := by
  simp [skip, hc]

theorem skip_blank (s : List Char) : skip (' ' :: s) = skip s := by
  simp [skip, isGap]

theorem skip_gap {gap : List Char} (hgap : gap.all isGap) : skip gap = [] := by
  induction gap with
  | nil => rfl
  | cons c gap ih =>
      simp only [List.all_cons, Bool.and_eq_true] at hgap
      simpa [skip, hgap.1] using ih hgap.2

theorem readValue_blank (fuel : Nat) (s : List Char) :
    readValue fuel (' ' :: s) = readValue fuel s := by
  cases fuel with
  | zero => rfl
  | succ fuel => simp only [readValue, skip_blank]

theorem readItems_blank (fuel : Nat) (s : List Char) :
    readItems fuel (' ' :: s) = readItems fuel s := by
  cases fuel with
  | zero => rfl
  | succ fuel => simp only [readItems, readValue_blank]

theorem readEntries_blank (fuel : Nat) (s : List Char) :
    readEntries fuel (' ' :: s) = readEntries fuel s := by
  cases fuel with
  | zero => rfl
  | succ fuel => simp only [readEntries, skip_blank]

/-! ## Numbers -/

/-- What follows a number does not go on with a digit. -/
def EndsNumber (rest : List Char) : Prop :=
  ∀ c ∈ rest.head?, ¬c.isDigit

theorem endsNumber_cons {c : Char} (hc : c.isDigit = false) (rest : List Char) :
    EndsNumber (c :: rest) := by
  simp [EndsNumber, hc]

theorem takeWhile_digits {rest : List Char} (hrest : EndsNumber rest) (n : Nat) :
    (Decimal.digits n ++ rest).takeWhile Char.isDigit = Decimal.digits n := by
  rw [List.takeWhile_append_of_pos fun c hc => Decimal.isDigit_of_mem_digits hc]
  cases rest with
  | nil => simp
  | cons c rest =>
      have hc : ¬c.isDigit := hrest c rfl
      simp [hc]

theorem dropWhile_digits {rest : List Char} (hrest : EndsNumber rest) (n : Nat) :
    (Decimal.digits n ++ rest).dropWhile Char.isDigit = rest := by
  rw [List.dropWhile_append_of_pos fun c hc => Decimal.isDigit_of_mem_digits hc]
  cases rest with
  | nil => simp
  | cons c rest =>
      have hc : ¬c.isDigit := hrest c rfl
      simp [hc]

theorem readDigits_digits {rest : List Char} (hrest : EndsNumber rest) (n : Nat) :
    readDigits (Decimal.digits n ++ rest) = some (n, rest) := by
  simp only [readDigits, takeWhile_digits hrest, dropWhile_digits hrest]
  split
  next h => exact absurd h (Decimal.digits_ne_nil n)
  next h =>
    rcases Nat.eq_zero_or_pos n with hn | hn
    · subst n
      simp [Decimal.digits] at h
    · exact absurd (by rw [h]; rfl) (Decimal.head?_digits_ne_zero hn)
  next h => rw [Decimal.foldl_digits]

theorem exists_digits_eq_cons (n : Nat) :
    ∃ c s, Decimal.digits n = c :: s ∧ c.isDigit := by
  obtain ⟨c, s, hs⟩ := List.exists_cons_of_ne_nil (Decimal.digits_ne_nil n)
  exact ⟨c, s, hs, Decimal.isDigit_of_mem_digits (n := n) (by simp [hs])⟩

theorem ne_of_isDigit {c d : Char} (hc : c.isDigit) (hd : d.isDigit = false) :
    c ≠ d := by
  rintro rfl
  simp [hd] at hc

theorem not_isGap_of_isDigit {c : Char} (hc : c.isDigit) : isGap c = false := by
  simp [isGap, ne_of_isDigit hc]

/-- What begins with a digit is a number. -/
theorem readValue_of_isDigit {c : Char} (hc : c.isDigit) (fuel : Nat)
    (s : List Char) :
    readValue (fuel + 1) (c :: s) =
      (readDigits (c :: s)).map fun read => (.int read.1, read.2) := by
  simp [readValue, skip_cons (not_isGap_of_isDigit hc), ne_of_isDigit hc]

theorem readValue_int (n : Int) (fuel : Nat) {rest : List Char}
    (hrest : EndsNumber rest) :
    readValue (fuel + 1) (print (.int n) ++ rest) = some (.int n, rest) := by
  obtain ⟨m, hm⟩ : ∃ m, n.natAbs = m := ⟨_, rfl⟩
  have hread := readDigits_digits hrest m
  by_cases hn : n < 0
  · have habs : -(m : Int) = n := by omega
    simp [print, Decimal.signed, hn, hm, readValue, skip, isGap, hread, habs]
  · obtain ⟨c, s, hs, hc⟩ := exists_digits_eq_cons m
    have habs : (m : Int) = n := by omega
    rw [hs, List.cons_append] at hread
    simp only [print, Decimal.signed, hn, if_false, hm, hs, List.cons_append]
    rw [readValue_of_isDigit hc, hread]
    simp [habs]

/-! ## Texts and brackets -/

theorem readValue_text (fuel : Nat) (s : String) (rest : List Char) :
    readValue (fuel + 1) (printText s.toList ++ rest) =
      some (.text s, rest) := by
  have hquote : isGap '"' = false := by decide
  rw [printText_append]
  simp only [readValue, skip_cons hquote]
  rw [readText_flatMap_escapeChar s.toList rest (by simp)]
  simp

theorem readItems_last {fuel : Nat} {s rest : List Char} {item : Json}
    (hitem : readValue fuel s = some (item, ']' :: rest)) :
    readItems (fuel + 1) s = some ([item], rest) := by
  simp [readItems, hitem, skip, isGap]

theorem readItems_next {fuel : Nat} {s rest after : List Char} {item : Json}
    {items : List Json}
    (hitem : readValue fuel s = some (item, ',' :: rest))
    (hitems : readItems fuel rest = some (items, after)) :
    readItems (fuel + 1) s = some (item :: items, after) := by
  simp [readItems, hitem, hitems, skip, isGap]

/-- Behind the value of an entry stands a comma before the other entries, or
the brace after the last one. -/
theorem readEntries_entry {fuel : Nat} (key : String) {c : Char}
    {s rest : List Char} {value : Json} (hc : isGap c = false)
    (hvalue : readValue fuel s = some (value, c :: rest)) :
    readEntries (fuel + 1) (printText key.toList ++ ':' :: s) =
      if c = ',' then
        (readEntries fuel rest).map fun read => ((key, value) :: read.1, read.2)
      else if c = '\x7d' then some ([(key, value)], rest)
      else none := by
  have hquote : isGap '"' = false := by decide
  have hcolon : isGap ':' = false := by decide
  rw [printText_append]
  simp only [readEntries, skip_cons hquote]
  rw [readText_flatMap_escapeChar key.toList (':' :: s) (by simp)]
  simp only [Option.bind_eq_bind, Option.bind_some, skip_cons hcolon, hvalue,
    skip_cons hc, String.ofList_toList]
  by_cases hcomma : c = ','
  · subst hcomma
    simp only [if_true]
    cases readEntries fuel rest with
    | none => rfl
    | some read => rfl
  · by_cases hbrace : c = '\x7d'
    · subst hbrace
      rfl
    · simp [hcomma, hbrace]

theorem readEntries_last {fuel : Nat} (key : String) {s rest : List Char}
    {value : Json}
    (hvalue : readValue fuel s = some (value, '\x7d' :: rest)) :
    readEntries (fuel + 1) (printText key.toList ++ ':' :: s) =
      some ([(key, value)], rest) := by
  rw [readEntries_entry key (by decide) hvalue]
  rfl

theorem readEntries_next {fuel : Nat} (key : String) {s rest after : List Char}
    {value : Json} {entries : List (String × Json)}
    (hvalue : readValue fuel s = some (value, ',' :: rest))
    (hentries : readEntries fuel rest = some (entries, after)) :
    readEntries (fuel + 1) (printText key.toList ++ ':' :: s) =
      some ((key, value) :: entries, after) := by
  rw [readEntries_entry key (by decide) hvalue, hentries]
  rfl

theorem readValue_list {fuel : Nat} {c : Char} {s after : List Char}
    {items : List Json} (hgap : isGap c = false) (hc : c ≠ ']')
    (hitems : readItems fuel (c :: s) = some (items, after)) :
    readValue (fuel + 1) ('[' :: c :: s) = some (.list items, after) := by
  have hbracket : isGap '[' = false := by decide
  simp [readValue, skip_cons hbracket, skip_cons hgap, hc, hitems]

theorem readValue_mapping {fuel : Nat} {s after : List Char}
    {entries : List (String × Json)}
    (hentries : readEntries fuel ('"' :: s) = some (entries, after)) :
    readValue (fuel + 1) ('\x7b' :: '"' :: s) =
      some (.mapping entries, after) := by
  simp [readValue, skip, isGap, hentries]

/-- No printed document begins with a gap or with the bracket that closes a list. -/
theorem exists_print_eq_cons (j : Json) :
    ∃ c s, print j = c :: s ∧ isGap c = false ∧ c ≠ ']' := by
  cases j with
  | null => exact ⟨'n', _, rfl, by decide, by decide⟩
  | bool b =>
      cases b with
      | false => exact ⟨'f', _, rfl, by decide, by decide⟩
      | true => exact ⟨'t', _, rfl, by decide, by decide⟩
  | int n =>
      by_cases hn : n < 0
      · exact ⟨'-', Decimal.digits n.natAbs, by simp [print, Decimal.signed, hn],
          by decide, by decide⟩
      · obtain ⟨c, s, hs, hc⟩ := exists_digits_eq_cons n.natAbs
        exact ⟨c, s, by simp [print, Decimal.signed, hn, hs],
          not_isGap_of_isDigit hc, ne_of_isDigit hc rfl⟩
  | text s => exact ⟨'"', _, rfl, by decide, by decide⟩
  | list items => exact ⟨'[', _, rfl, by decide, by decide⟩
  | mapping entries => exact ⟨'\x7b', _, rfl, by decide, by decide⟩

/-- Separated parts begin as the first of them does. -/
theorem exists_separated_eq_cons (c : Char) (s : List Char)
    (rest : List (List Char)) :
    ∃ t, separated ((c :: s) :: rest) = c :: t := by
  cases rest with
  | nil => exact ⟨s, rfl⟩
  | cons next rest => exact ⟨_, rfl⟩

/-! ## Documents -/

mutual

/-- A printed document is read back, whatever follows it. -/
theorem readValue_print (j : Json) (fuel : Nat) (rest : List Char)
    (hfuel : 2 * (print j).length ≤ fuel) (hrest : EndsNumber rest) :
    readValue fuel (print j ++ rest) = some (j, rest) := by
  have hpos : fuel ≠ 0 := by
    obtain ⟨c, s, hs, -⟩ := exists_print_eq_cons j
    rw [hs, List.length_cons] at hfuel
    omega
  obtain ⟨fuel, rfl⟩ := Nat.exists_eq_add_one_of_ne_zero hpos
  cases j with
  | null => simp [print, readValue, skip, isGap, expect]
  | bool b => cases b <;> simp [print, readValue, skip, isGap, expect]
  | int n => exact readValue_int n fuel hrest
  | text s => exact readValue_text fuel s rest
  | list items =>
      cases items with
      | nil => simp [print, printItems, separated, readValue, skip, isGap]
      | cons item items =>
          simp only [print, List.cons_append, List.length_cons,
            List.length_append, List.length_nil] at hfuel
          have hitems := readItems_print item items fuel rest (by omega)
          obtain ⟨c, s, hs, hgap, hc⟩ := exists_print_eq_cons item
          obtain ⟨t, ht⟩ := exists_separated_eq_cons c s (printItems items)
          simp only [print, printItems, hs, ht, List.cons_append,
            List.append_assoc] at hitems ⊢
          exact readValue_list hgap hc hitems
  | mapping entries =>
      cases entries with
      | nil => simp [print, printEntries, separated, readValue, skip, isGap]
      | cons entry entries =>
          cases entry with
          | mk key value =>
              simp only [print, List.cons_append, List.length_cons,
                List.length_append, List.length_nil] at hfuel
              have hentries := readEntries_print key value entries fuel rest
                (by omega)
              obtain ⟨t, ht⟩ := exists_separated_eq_cons '"'
                (key.toList.flatMap escapeChar ++
                  '"' :: ':' :: ' ' :: print value)
                (printEntries entries)
              simp only [print, printEntries, printText_append, ht,
                List.cons_append, List.append_assoc] at hentries ⊢
              exact readValue_mapping hentries
termination_by sizeOf j
decreasing_by
  all_goals
    subst_vars
    simp +arith

/-- Printed items are read back up to the bracket that closes their list. -/
theorem readItems_print (item : Json) (items : List Json) (fuel : Nat)
    (rest : List Char)
    (hfuel : 2 * (separated (printItems (item :: items))).length < fuel) :
    readItems fuel (separated (printItems (item :: items)) ++ ']' :: rest) =
      some (item :: items, rest) := by
  obtain ⟨fuel, rfl⟩ :=
    Nat.exists_eq_add_one_of_ne_zero (Nat.ne_zero_of_lt hfuel)
  cases items with
  | nil =>
      simp only [printItems, separated] at hfuel ⊢
      exact readItems_last
        (readValue_print item fuel _ (by omega)
          (endsNumber_cons (by decide) _))
  | cons next items =>
      simp only [printItems, separated, List.length_append,
        List.length_cons] at hfuel
      have hitem := readValue_print item fuel
        (',' :: ' ' ::
          (separated (printItems (next :: items)) ++ ']' :: rest))
        (by omega) (endsNumber_cons (by decide) _)
      have hitems := readItems_print next items fuel rest
        (by simp only [printItems]; omega)
      rw [← readItems_blank] at hitems
      simpa [printItems, separated] using readItems_next hitem hitems
termination_by sizeOf (item :: items)
decreasing_by
  all_goals
    subst_vars
    simp +arith

/-- Printed entries are read back up to the brace that closes their mapping. -/
theorem readEntries_print (key : String) (value : Json)
    (entries : List (String × Json)) (fuel : Nat) (rest : List Char)
    (hfuel :
      2 * (separated (printEntries ((key, value) :: entries))).length < fuel) :
    readEntries fuel
        (separated (printEntries ((key, value) :: entries)) ++
          '\x7d' :: rest) =
      some ((key, value) :: entries, rest) := by
  obtain ⟨fuel, rfl⟩ :=
    Nat.exists_eq_add_one_of_ne_zero (Nat.ne_zero_of_lt hfuel)
  cases entries with
  | nil =>
      simp only [printEntries, separated, List.length_append,
        List.length_cons] at hfuel
      have hvalue := readValue_print value fuel ('\x7d' :: rest) (by omega)
        (endsNumber_cons (by decide) _)
      rw [← readValue_blank] at hvalue
      simpa [printEntries, separated] using readEntries_last key hvalue
  | cons next entries =>
      cases next with
      | mk key' value' =>
          simp only [printEntries, separated, List.length_append,
            List.length_cons] at hfuel
          have hvalue := readValue_print value fuel
            (',' :: ' ' ::
              (separated (printEntries ((key', value') :: entries)) ++
                '\x7d' :: rest))
            (by omega) (endsNumber_cons (by decide) _)
          have hentries := readEntries_print key' value' entries fuel rest
            (by simp only [printEntries]; omega)
          rw [← readValue_blank] at hvalue
          rw [← readEntries_blank] at hentries
          simpa [printEntries, separated] using
            readEntries_next key hvalue hentries
termination_by sizeOf ((key, value) :: entries)
decreasing_by
  all_goals
    subst_vars
    simp +arith

end

theorem endsNumber_of_gap {gap : List Char} (hgap : gap.all isGap) :
    EndsNumber gap := by
  intro c hc hdigit
  have hc := List.all_eq_true.mp hgap c (List.mem_of_mem_head? hc)
  simp [not_isGap_of_isDigit hdigit] at hc

/-- Reading a printed document gives the document; gaps behind it do not matter. -/
theorem parse?_print (j : Json) {gap : List Char} (hgap : gap.all isGap) :
    parse? (print j ++ gap) = some j := by
  have hread := readValue_print j (2 * (print j ++ gap).length + 1) gap
    (by simp only [List.length_append]; omega) (endsNumber_of_gap hgap)
  simp only [parse?, hread, skip_gap hgap, Option.bind_eq_bind,
    Option.bind_some, List.isEmpty_nil, if_true]

/-! ## One line -/

theorem isPlain_of_isDigit {c : Char} (hc : c.isDigit) : IsPlain c := by
  simp only [Char.isDigit, Bool.and_eq_true, decide_eq_true_eq, ge_iff_le,
    UInt32.le_iff_toNat_le] at hc
  simp only [IsPlain, Char.toNat]
  have h0 : '0'.val.toNat = 48 := rfl
  have h9 : '9'.val.toNat = 57 := rfl
  omega

theorem isPlain_of_mem_signed (n : Int) :
    ∀ c ∈ Decimal.signed n (Decimal.digits n.natAbs), IsPlain c := by
  have hdigits : ∀ c ∈ Decimal.digits n.natAbs, IsPlain c := fun c hc =>
    isPlain_of_isDigit (Decimal.isDigit_of_mem_digits hc)
  unfold Decimal.signed
  split
  next =>
    intro c hc
    rcases List.mem_cons.mp hc with rfl | hc
    · decide
    · exact hdigits c hc
  next => exact hdigits

theorem isPlain_of_mem_separated {parts : List (List Char)}
    (hparts : ∀ part ∈ parts, ∀ c ∈ part, IsPlain c) :
    ∀ c ∈ separated parts, IsPlain c := by
  fun_induction separated parts with
  | case1 => simp
  | case2 part => exact hparts part (by simp)
  | case3 part next rest ih =>
      intro c hc
      simp only [List.mem_append, List.mem_cons] at hc
      rcases hc with hc | rfl | rfl | hc
      · exact hparts part (by simp) c hc
      · decide
      · decide
      · exact ih (fun p hp => hparts p (List.mem_cons_of_mem part hp)) c hc

theorem isPlain_of_mem_brackets {first last : Char} {s : List Char}
    (hfirst : IsPlain first) (hs : ∀ c ∈ s, IsPlain c) (hlast : IsPlain last) :
    ∀ c ∈ first :: s ++ [last], IsPlain c := by
  intro c hc
  simp only [List.cons_append, List.mem_cons, List.mem_append,
    List.not_mem_nil, or_false] at hc
  rcases hc with rfl | hc | rfl
  · exact hfirst
  · exact hs c hc
  · exact hlast

mutual

/-- A printed document has none but printable characters. -/
theorem isPlain_of_mem_print (j : Json) : ∀ c ∈ print j, IsPlain c := by
  cases j with
  | null => exact isPlain_of_all (by decide)
  | bool b => cases b <;> exact isPlain_of_all (by decide)
  | int n => exact isPlain_of_mem_signed n
  | text s => exact isPlain_of_mem_printText s.toList
  | list items =>
      exact isPlain_of_mem_brackets (by decide)
        (isPlain_of_mem_separated (isPlain_of_mem_printItems items))
        (by decide)
  | mapping entries =>
      exact isPlain_of_mem_brackets (by decide)
        (isPlain_of_mem_separated (isPlain_of_mem_printEntries entries))
        (by decide)

theorem isPlain_of_mem_printItems (items : List Json) :
    ∀ part ∈ printItems items, ∀ c ∈ part, IsPlain c := by
  cases items with
  | nil => simp [printItems]
  | cons item items =>
      intro part hpart
      rcases List.mem_cons.mp hpart with rfl | hpart
      · exact isPlain_of_mem_print item
      · exact isPlain_of_mem_printItems items part hpart

theorem isPlain_of_mem_printEntries (entries : List (String × Json)) :
    ∀ part ∈ printEntries entries, ∀ c ∈ part, IsPlain c := by
  cases entries with
  | nil => simp [printEntries]
  | cons entry entries =>
      cases entry with
      | mk key value =>
          intro part hpart c hc
          rcases List.mem_cons.mp hpart with rfl | hpart
          · simp only [List.mem_append, List.mem_cons] at hc
            rcases hc with hc | rfl | rfl | hc
            · exact isPlain_of_mem_printText key.toList c hc
            · decide
            · decide
            · exact isPlain_of_mem_print value c hc
          · exact isPlain_of_mem_printEntries entries part hpart c hc

end

/-- A printed document is one line. -/
theorem newline_not_mem_print (j : Json) : '\n' ∉ print j := by
  intro hnewline
  exact absurd (isPlain_of_mem_print j '\n' hnewline) (by decide)

end Json

end TokenSplit
