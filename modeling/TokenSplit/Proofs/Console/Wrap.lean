import TokenSplit.Console.Wrap

/-!
# What wrapped lines carry

Wrapping moves a text to lines without losing any of it: where a line ends, blanks may come or
go, and everything else stands on the lines in its order.  This rests on one fact about filling:
no line is wider than allowed once the blanks at its end are left aside, so that what is cut off
a line at last is blank.
-/

namespace TokenSplit

namespace Text

theorem foldl_add_start (n : Nat) (ns : List Nat) :
    ns.foldl (· + ·) n = n + ns.foldl (· + ·) 0 := by
  induction ns generalizing n with
  | nil => rfl
  | cons m ns ih =>
      rw [List.foldl_cons, List.foldl_cons, ih (n + m), ih (0 + m)]
      omega

@[simp] theorem width_append (s t : List Char) :
    width (s ++ t) = width s + width t := by
  simp only [width, List.map_append, List.foldl_append]
  exact foldl_add_start _ _

@[simp] theorem width_singleton (c : Char) : width [c] = charWidth c := by
  simp [width]

theorem charWidth_le_two (c : Char) : charWidth c ≤ 2 := by
  simp only [charWidth]
  repeat' split
  all_goals omega

theorem trimEnd_append_blanks (s : List Char) :
    trimEnd s ++ (s.reverse.takeWhile isBlank).reverse = s := by
  rw [trimEnd, ← List.reverse_append, List.takeWhile_append_dropWhile,
    List.reverse_reverse]

theorem width_trimEnd_le (s : List Char) : width (trimEnd s) ≤ width s := by
  have hwidth := congrArg width (trimEnd_append_blanks s)
  rw [width_append] at hwidth
  omega

theorem isBlank_of_dropWhile {s rest : List Char} {c : Char}
    (hs : s.dropWhile isBlank = c :: rest) : isBlank c = false := by
  have hhead := List.head?_dropWhile_not isBlank s
  rw [hs] at hhead
  exact hhead

theorem trimEnd_of_blank {s : List Char} (hs : s.dropWhile isBlank = []) :
    trimEnd s = [] := by
  have hall : ∀ c ∈ s, isBlank c := by
    have hsplit := List.takeWhile_append_dropWhile (p := isBlank) (l := s)
    rw [hs, List.append_nil] at hsplit
    rw [← hsplit]
    exact List.all_eq_true.mp List.all_takeWhile
  cases hend : s.reverse.dropWhile isBlank with
  | nil => rw [trimEnd, hend, List.reverse_nil]
  | cons c rest =>
      have hc : c ∈ s.reverse :=
        (List.dropWhile_sublist isBlank).subset (by rw [hend]; simp)
      have hblank := hall c (List.mem_reverse.mp hc)
      rw [isBlank_of_dropWhile hend] at hblank
      cases hblank

theorem width_trimEnd_append_le (s t : List Char) :
    width (trimEnd (s ++ t)) ≤ width s + width (trimEnd t) := by
  have hcases : trimEnd (s ++ t) = trimEnd s ∨
      trimEnd (s ++ t) = s ++ trimEnd t := by
    simp only [trimEnd, List.reverse_append, List.dropWhile_append]
    split
    · exact .inl rfl
    · right
      simp
  rcases hcases with h | h
  · have hs := width_trimEnd_le s
    rw [h]
    omega
  · have hwidth : width (trimEnd (s ++ t)) = width s + width (trimEnd t) := by
      rw [h, width_append]
    exact Nat.le_of_eq hwidth

end Text

namespace Console

open Text (charWidth isBlank width trimEnd)

/-- Lines carry a text if they are that text one after another, but for blanks
where a line ends. -/
inductive Carries : List (List Char) → List Char → Prop
  | last (core : List Char) {pad gap : List Char}
      (hpad : pad.all isBlank) (hgap : gap.all isBlank) :
      Carries [core ++ pad] (core ++ gap)
  | next (core : List Char) {pad gap : List Char}
      (hpad : pad.all isBlank) (hgap : gap.all isBlank)
      {lines : List (List Char)} {s : List Char} (h : Carries lines s) :
      Carries ((core ++ pad) :: lines) (core ++ gap ++ s)

namespace Carries

theorem append {first second : List (List Char)} {s t gap : List Char}
    (hs : Carries first s) (hgap : gap.all isBlank) (ht : Carries second t) :
    Carries (first ++ second) (s ++ gap ++ t) := by
  induction hs with
  | last core hpad hend =>
      have hblank := List.all_append.trans
        (Bool.and_eq_true_iff.mpr ⟨hend, hgap⟩)
      simpa using next core hpad hblank ht
  | next core hpad hend _ ih =>
      simpa using next core hpad hend ih

/-- Characters that are not blank are all there, and no others. -/
theorem countP_eq {p : Char → Bool} (hp : ∀ c, isBlank c → p c = false)
    {lines : List (List Char)} {s : List Char} (h : Carries lines s) :
    lines.flatten.countP p = s.countP p := by
  have hblank : ∀ {gap : List Char}, gap.all isBlank → gap.countP p = 0 := by
    intro gap hgap
    rw [List.countP_eq_zero]
    intro c hc
    rw [hp c (List.all_eq_true.mp hgap c hc)]
    exact Bool.false_ne_true
  induction h with
  | last core hpad hgap => simp [hblank hpad, hblank hgap]
  | next core hpad hgap _ ih => simp [hblank hpad, hblank hgap, ih]

end Carries

/-! ## Words -/

theorem words_of_blank {s : List Char} (hs : s.dropWhile isBlank = [])
    (fuel : Nat) : words fuel s = [] := by
  cases fuel with
  | zero => rfl
  | succ fuel => simp [words, hs]

/-- A text that is not blank begins with a word, and what follows the word is
nothing or does not begin with a blank. -/
theorem exists_word {s rest : List Char} {c : Char}
    (hs : s.dropWhile isBlank = c :: rest) :
    ∃ word next,
      (∀ fuel, words (fuel + 1) s = word :: words fuel next) ∧
      s = word ++ next ∧ next.length < s.length ∧
      next.dropWhile isBlank = next := by
  have hc := Text.isBlank_of_dropWhile hs
  have hfront := List.takeWhile_append_dropWhile (p := isBlank) (l := s)
  have hcore := List.takeWhile_append_dropWhile
    (p := fun c => !isBlank c) (l := rest)
  have hback := List.takeWhile_append_dropWhile (p := isBlank)
    (l := rest.dropWhile fun c => !isBlank c)
  rw [hs] at hfront
  refine ⟨s.takeWhile isBlank ++ c :: rest.takeWhile (fun c => !isBlank c) ++
      (rest.dropWhile fun c => !isBlank c).takeWhile isBlank,
    (rest.dropWhile fun c => !isBlank c).dropWhile isBlank, ?_, ?_, ?_, ?_⟩
  · intro fuel
    simp [words, hs, hc]
  · rw [List.append_assoc, hback, List.append_assoc, List.cons_append, hcore,
      hfront]
  · have h1 := congrArg List.length hfront
    have h2 := congrArg List.length hcore
    have h3 := congrArg List.length hback
    simp only [List.length_append, List.length_cons] at h1 h2 h3
    omega
  · cases hnext : (rest.dropWhile fun c => !isBlank c).dropWhile isBlank with
    | nil => rfl
    | cons d tail =>
        rw [List.dropWhile_cons, Text.isBlank_of_dropWhile hnext]
        rfl

/-- Unless all of a text is blank, its words are the text. -/
theorem flatten_words {fuel : Nat} {s : List Char} (hfuel : s.length < fuel)
    (hs : s.dropWhile isBlank ≠ []) : (words fuel s).flatten = s := by
  induction fuel generalizing s with
  | zero => omega
  | succ fuel ih =>
      obtain ⟨c, rest, hrest⟩ := List.exists_cons_of_ne_nil hs
      obtain ⟨word, next, hwords, hsplit, hlength, hnext⟩ := exists_word hrest
      rw [hwords, List.flatten_cons]
      by_cases hempty : next = []
      · rw [hempty, words_of_blank rfl, List.flatten_nil, ← hempty]
        exact hsplit.symm
      · rw [ih (by omega) (by rwa [hnext])]
        exact hsplit.symm

theorem flatten_chop (cells used : Nat) (piece s : List Char) :
    (chop cells used piece s).flatten = piece.reverse ++ s := by
  fun_induction chop cells used piece s <;> simp_all

theorem chop_ne_nil (cells used : Nat) (piece s : List Char) :
    chop cells used piece s ≠ [] := by
  fun_induction chop cells used piece s <;> simp_all

theorem width_le_of_mem_chop {cells used : Nat} {piece s : List Char}
    (hcells : 2 ≤ cells) (hused : used = width piece.reverse)
    (hfits : used ≤ cells) :
    ∀ part ∈ chop cells used piece s, width part ≤ cells := by
  fun_induction chop cells used piece s with
  | case1 used piece =>
      intro part hpart
      rw [List.mem_singleton.mp hpart, ← hused]
      exact hfits
  | case2 used piece c rest hfull ih =>
      have hc := Text.charWidth_le_two c
      intro part hpart
      rcases List.mem_cons.mp hpart with rfl | hpart
      · rw [← hused]
        exact hfits
      · exact ih (by simp) (by omega) part hpart
  | case3 used piece c rest hroom ih =>
      exact ih (by simp [hused]) (by omega)

/-! ## Filling lines -/

theorem fill_ne_nil (cells used : Nat) (line : List Char)
    (words : List (List Char)) : fill cells used line words ≠ [] := by
  induction words generalizing used line with
  | nil => simp [fill]
  | cons word words ih =>
      simp only [fill]
      split
      · exact ih _ _
      split
      · simp [ih]
      · simp [ih]

/-- A word goes on the line if there is room, and otherwise the line is
finished and the word begins new ones. -/
theorem fill_cons_cases {cells : Nat} (hcells : 2 ≤ cells) (used : Nat)
    (line word : List Char) (rest : List (List Char)) :
    (used + width (trimEnd word) ≤ cells ∧
      fill cells used line (word :: rest) =
        fill cells (used + width word) (line ++ word) rest) ∨
    ∃ front last,
      fill cells used line (word :: rest) =
        front ++ fill cells (width last) last rest ∧
      front.flatten ++ last = line ++ word ∧
      (∀ l ∈ front, l = line ∨ width l ≤ cells) ∧
      width (trimEnd last) ≤ cells := by
  let before := if line.isEmpty then [] else [line]
  have hbefore : before.flatten = line ∧ ∀ l ∈ before, l = line := by
    simp only [before]
    cases line <;> simp
  by_cases hroom : used + width (trimEnd word) ≤ cells
  · exact .inl ⟨hroom, by simp only [fill, if_pos hroom]⟩
  right
  by_cases hlong : cells < width (trimEnd word)
  · obtain ⟨front, last, hchop⟩ := (List.eq_nil_or_concat _).resolve_left
      (chop_ne_nil cells 0 [] word)
    have hword := flatten_chop cells 0 [] word
    have hwidth : ∀ part ∈ chop cells 0 [] word, width part ≤ cells :=
      width_le_of_mem_chop hcells rfl (Nat.zero_le cells)
    rw [hchop] at hword hwidth
    refine ⟨before ++ front, last, ?_, ?_, ?_, ?_⟩
    · simp only [fill, if_neg hroom, if_pos hlong, hchop]
      simp [before]
    · simpa [hbefore.1] using hword
    · intro l hl
      rcases List.mem_append.mp hl with hl | hl
      · exact .inl (hbefore.2 l hl)
      · exact .inr (hwidth l (by simp [hl]))
    · have hlast := hwidth last (by simp)
      exact Nat.le_trans (Text.width_trimEnd_le last) hlast
  · refine ⟨before, word, ?_, ?_, ?_, ?_⟩
    · simp only [fill, if_neg hroom, if_neg hlong, before]
    · rw [hbefore.1]
    · intro l hl
      exact .inl (hbefore.2 l hl)
    · omega

theorem flatten_fill {cells : Nat} (hcells : 2 ≤ cells) (used : Nat)
    (line : List Char) (found : List (List Char)) :
    (fill cells used line found).flatten = line ++ found.flatten := by
  induction found generalizing used line with
  | nil => simp [fill]
  | cons word rest ih =>
      rcases fill_cons_cases hcells used line word rest with
        ⟨-, hfill⟩ | ⟨front, last, hfill, hflatten, -⟩
      · rw [hfill, ih, List.flatten_cons, List.append_assoc]
      · rw [hfill, List.flatten_append, ih, ← List.append_assoc, hflatten,
          List.flatten_cons, List.append_assoc]

/-- No line that is filled is wider than allowed, the blanks at its end
aside. -/
theorem width_le_of_mem_fill {cells used : Nat} {line : List Char}
    (hcells : 2 ≤ cells) (found : List (List Char))
    (hused : used = width line) (hfits : width (trimEnd line) ≤ cells) :
    ∀ l ∈ fill cells used line found, width (trimEnd l) ≤ cells := by
  induction found generalizing used line with
  | nil =>
      intro l hl
      rw [List.mem_singleton.mp hl]
      exact hfits
  | cons word rest ih =>
      rcases fill_cons_cases hcells used line word rest with
        ⟨hroom, hfill⟩ | ⟨front, last, hfill, -, hfront, hlast⟩
      · rw [hfill]
        have hline := Text.width_trimEnd_append_le line word
        exact ih (by rw [Text.width_append, hused]) (by omega)
      · rw [hfill]
        intro l hl
        rcases List.mem_append.mp hl with hl | hl
        · rcases hfront l hl with rfl | hwidth
          · exact hfits
          · exact Nat.le_trans (Text.width_trimEnd_le l) hwidth
        · exact ih rfl hlast l hl

/-! ## Cutting lines -/

theorem all_blank_crop (cells : Nat) {gap : List Char}
    (hgap : gap.all isBlank) : (crop cells gap).all isBlank := by
  induction gap generalizing cells with
  | nil => rfl
  | cons c gap ih =>
      rw [List.all_cons, Bool.and_eq_true] at hgap
      simp only [crop]
      split
      · rw [List.all_cons, hgap.1, ih _ hgap.2]
        rfl
      split
      · rfl
      · rfl

theorem crop_append {cells : Nat} {core : List Char}
    (hcore : width core ≤ cells) (gap : List Char) :
    crop cells (core ++ gap) = core ++ crop (cells - width core) gap := by
  induction core generalizing cells with
  | nil => rfl
  | cons c core ih =>
      have hwidth : width (c :: core) = charWidth c + width core := by
        rw [← List.singleton_append, Text.width_append, Text.width_singleton]
      rw [hwidth] at hcore
      have hc : charWidth c ≤ cells := by omega
      rw [List.cons_append, crop, if_pos hc, ih (by omega), hwidth,
        Nat.sub_sub]
      rfl

theorem exists_dropExcess_eq (cells : Nat) (line : List Char) :
    ∃ pad, pad.all isBlank ∧ dropExcess cells line = trimEnd line ++ pad := by
  let blanks := line.reverse.takeWhile isBlank
  let cut := min blanks.length (line.length - cells)
  refine ⟨blanks.reverse.take (blanks.length - cut), ?_, ?_⟩
  · rw [List.all_eq_true]
    intro c hc
    have hc := List.mem_reverse.mp (List.mem_of_mem_take hc)
    exact List.all_eq_true.mp List.all_takeWhile c hc
  · have hline := Text.trimEnd_append_blanks line
    have hlength := congrArg List.length hline
    rw [List.length_append, List.length_reverse] at hlength
    have hcut : line.length - cut =
        (trimEnd line).length + (blanks.length - cut) := by
      simp only [blanks, cut]
      omega
    calc
      dropExcess cells line = line.take (line.length - cut) := by
        simp only [dropExcess, cut, blanks]
      _ = (trimEnd line ++ blanks.reverse).take
            ((trimEnd line).length + (blanks.length - cut)) := by
        rw [hcut, hline]
      _ = trimEnd line ++ blanks.reverse.take (blanks.length - cut) :=
        List.take_length_add_append _

/-- How a line looks at last: too many blanks at its end are dropped, and it
is cut if it is still too wide. -/
def finish (cells : Nat) (line : List Char) : List Char :=
  let line := dropExcess cells line
  if cells < width line then crop cells line else line

theorem exists_finish_eq {cells : Nat} {line : List Char}
    (hline : width (trimEnd line) ≤ cells) :
    ∃ pad, pad.all isBlank ∧ finish cells line = trimEnd line ++ pad := by
  obtain ⟨pad, hpad, hdropped⟩ := exists_dropExcess_eq cells line
  simp only [finish, hdropped]
  split
  · exact ⟨_, all_blank_crop _ hpad, crop_append hline pad⟩
  · exact ⟨pad, hpad, rfl⟩

theorem carries_finish {cells : Nat} {ls : List (List Char)} (hne : ls ≠ [])
    (hls : ∀ l ∈ ls, width (trimEnd l) ≤ cells) :
    Carries (ls.map (finish cells)) ls.flatten := by
  induction ls with
  | nil => exact absurd rfl hne
  | cons l rest ih =>
      obtain ⟨pad, hpad, hfinish⟩ := exists_finish_eq (hls l List.mem_cons_self)
      have hl := Text.trimEnd_append_blanks l
      have hgap : (l.reverse.takeWhile isBlank).reverse.all isBlank := by
        rw [List.all_reverse]
        exact List.all_takeWhile
      cases rest with
      | nil =>
          have h := Carries.last (trimEnd l) hpad hgap
          rw [hl, ← hfinish] at h
          rw [List.map_singleton, List.flatten_singleton]
          exact h
      | cons next rest =>
          have hrest := ih (by simp) fun l hl =>
            hls l (List.mem_cons_of_mem _ hl)
          have h := Carries.next (trimEnd l) hpad hgap hrest
          rw [hl, ← hfinish] at h
          exact h

theorem wrapLine_ne_nil (cells : Nat) (s : List Char) :
    wrapLine cells s ≠ [] := by
  simp only [wrapLine, ne_eq, List.map_eq_nil_iff]
  split
  · simp
  · exact fill_ne_nil _ _ _ _

/-- The lines that a text without line ends is wrapped into carry it, with
its tabs expanded. -/
theorem carries_wrapLine {cells : Nat} (hcells : 2 ≤ cells) (s : List Char) :
    Carries (wrapLine cells s) (expandTabs 0 s) := by
  cases hblank : (expandTabs 0 s).dropWhile isBlank with
  | nil =>
      have hwrap : wrapLine cells s = [expandTabs 0 s].map (finish cells) := by
        simp only [wrapLine, words_of_blank hblank]
        rfl
      have hwidth : ∀ l ∈ [expandTabs 0 s], width (trimEnd l) ≤ cells := by
        intro l hl
        rw [List.mem_singleton.mp hl, Text.trimEnd_of_blank hblank]
        exact Nat.zero_le cells
      have h := carries_finish (List.cons_ne_nil (expandTabs 0 s) []) hwidth
      rw [← hwrap, List.flatten_singleton] at h
      exact h
  | cons c rest =>
      have hne : (expandTabs 0 s).dropWhile isBlank ≠ [] := by simp [hblank]
      have hflatten := flatten_words (Nat.lt_succ_self _) hne
      obtain ⟨word, next, hwords, -⟩ := exists_word hblank
      have hwrap : wrapLine cells s =
          (fill cells 0 []
            (word :: words (expandTabs 0 s).length next)).map
              (finish cells) := by
        simp only [wrapLine, hwords]
        rfl
      have h := carries_finish (fill_ne_nil cells 0 [] _)
        (width_le_of_mem_fill hcells
          (word :: words (expandTabs 0 s).length next) rfl (Nat.zero_le cells))
      rw [← hwrap, flatten_fill hcells, List.nil_append, ← hwords,
        hflatten] at h
      exact h

/-! ## Whole texts -/

theorem lines_ne_nil (s : List Char) : lines s ≠ [] := by
  cases s with
  | nil => simp [lines]
  | cons c s =>
      simp only [lines]
      split
      · simp
      · split <;> simp

theorem intercalate_lines (s : List Char) :
    ['\n'].intercalate (lines s) = s := by
  induction s with
  | nil => rfl
  | cons c s ih =>
      obtain ⟨line, others, hlines⟩ :=
        List.exists_cons_of_ne_nil (lines_ne_nil s)
      rw [hlines] at ih
      simp only [lines, hlines]
      split
      next hc =>
        rw [List.intercalate_cons_cons, ih, hc]
        rfl
      next hc =>
        cases others with
        | nil =>
            rw [List.intercalate_singleton] at ih ⊢
            rw [ih]
        | cons next others =>
            rw [List.intercalate_cons_cons] at ih ⊢
            simp [← ih]

theorem wrap_ne_nil (cells : Nat) (s : List Char) : wrap cells s ≠ [] := by
  obtain ⟨line, rest, hlines⟩ := List.exists_cons_of_ne_nil (lines_ne_nil s)
  simp [wrap, hlines, wrapLine_ne_nil]

/-- A text with the tabs of its lines expanded. -/
def untabbed (s : List Char) : List Char :=
  ['\n'].intercalate ((lines s).map (expandTabs 0))

/-- The lines that a text is wrapped into carry it, with its tabs expanded. -/
theorem carries_wrap {cells : Nat} (hcells : 2 ≤ cells) (s : List Char) :
    Carries (wrap cells s) (untabbed s) := by
  have hall : ∀ found : List (List Char), found ≠ [] →
      Carries (found.flatMap (wrapLine cells))
        (['\n'].intercalate (found.map (expandTabs 0))) := by
    intro found hne
    induction found with
    | nil => exact absurd rfl hne
    | cons line rest ih =>
        have hline := carries_wrapLine hcells line
        cases rest with
        | nil =>
            rw [List.flatMap_singleton, List.map_singleton,
              List.intercalate_singleton]
            exact hline
        | cons next rest =>
            have hrest := ih (by simp)
            rw [List.map_cons, List.map_cons, List.intercalate_cons_cons]
            exact hline.append rfl hrest
  exact hall (lines s) (lines_ne_nil s)

theorem expandTabs_of_not_mem (used : Nat) {s : List Char} (hs : '\t' ∉ s) :
    expandTabs used s = s := by
  induction s generalizing used with
  | nil => rfl
  | cons c s ih =>
      rw [List.mem_cons, not_or] at hs
      rw [expandTabs, if_neg (Ne.symm hs.1), ih _ hs.2]

theorem untabbed_of_not_mem {s : List Char} (hs : '\t' ∉ s) :
    untabbed s = s := by
  have hall : ∀ found : List (List Char),
      '\t' ∉ ['\n'].intercalate found → found.map (expandTabs 0) = found := by
    intro found hfound
    induction found with
    | nil => rfl
    | cons line rest ih =>
        cases rest with
        | nil =>
            rw [List.intercalate_singleton] at hfound
            rw [List.map_singleton, expandTabs_of_not_mem 0 hfound]
        | cons next rest =>
            rw [List.intercalate_cons_cons] at hfound
            simp only [List.mem_append, not_or] at hfound
            rw [List.map_cons, expandTabs_of_not_mem 0 hfound.1.1,
              ih hfound.2]
  rw [untabbed, hall (lines s) (by rwa [intercalate_lines]),
    intercalate_lines]

theorem countP_expandTabs {p : Char → Bool}
    (hp : ∀ c, isBlank c → p c = false) (used : Nat) (s : List Char) :
    (expandTabs used s).countP p = s.countP p := by
  have hspace : p ' ' = false := hp ' ' (by decide)
  have htab : p '\t' = false := hp '\t' (by decide)
  induction s generalizing used with
  | nil => rfl
  | cons c s ih =>
      simp only [expandTabs]
      split
      next hc =>
        rw [hc, List.countP_append, ih, List.countP_replicate]
        simp [hspace, htab]
      next => rw [List.countP_cons, List.countP_cons, ih]

/-- Expanding tabs makes blanks of blanks. -/
theorem countP_untabbed {p : Char → Bool}
    (hp : ∀ c, isBlank c → p c = false) (s : List Char) :
    (untabbed s).countP p = s.countP p := by
  have hall : ∀ found : List (List Char),
      (['\n'].intercalate (found.map (expandTabs 0))).countP p =
        (['\n'].intercalate found).countP p := by
    intro found
    induction found with
    | nil => rfl
    | cons line rest ih =>
        cases rest with
        | nil => simp [List.intercalate_singleton, countP_expandTabs hp]
        | cons next rest =>
            rw [List.map_cons] at ih
            simp only [List.map_cons, List.intercalate_cons_cons,
              List.countP_append, countP_expandTabs hp, ih]
  rw [untabbed, hall, intercalate_lines]

end Console

end TokenSplit
