import TokenSplit.Console.Markup

/-!
# What markup leaves of a text

A text is verbatim if no bracket in it begins a tag and no backslash stands before a bracket.
Exactly the verbatim texts are shown as they are: each step of cutting a text into pieces keeps
what it cuts off, or else the text is not verbatim and a bracket or a backslash is lost, and
nothing that comes later brings it back.
-/

namespace TokenSplit.Console.Markup

/-- No bracket of a text begins a tag, and no backslash stands before one. -/
def Verbatim (s : List Char) : Prop :=
  ∀ front rest, s = front ++ '[' :: rest →
    inside? rest = none ∧ front.getLast? ≠ some '\\'

theorem verbatim_nil : Verbatim [] := by
  intro front rest h
  simp at h

theorem verbatim_cons {c : Char} {s : List Char} :
    Verbatim (c :: s) ↔
      (c = '[' → inside? s = none) ∧ (c = '\\' → s.head? ≠ some '[') ∧
        Verbatim s := by
  constructor
  · intro h
    refine ⟨?_, ?_, ?_⟩
    · rintro rfl
      exact (h [] s rfl).1
    · rintro rfl hhead
      obtain ⟨rest, rfl⟩ := List.head?_eq_some_iff.mp hhead
      exact (h ['\\'] rest rfl).2 rfl
    · rintro front rest rfl
      obtain ⟨hinside, hlast⟩ := h (c :: front) rest rfl
      refine ⟨hinside, ?_⟩
      intro hslash
      rw [List.getLast?_cons, hslash] at hlast
      exact hlast rfl
  · rintro ⟨htag, hslash, hs⟩ front rest h
    cases front with
    | nil =>
        cases h
        exact ⟨htag rfl, by simp⟩
    | cons d front =>
        cases h
        obtain ⟨hinside, hlast⟩ := hs front rest rfl
        refine ⟨hinside, ?_⟩
        rw [List.getLast?_cons]
        cases hfront : front.getLast? with
        | none =>
            rw [List.getLast?_eq_none_iff.mp hfront] at hslash
            intro hc
            exact hslash (Option.some.inj hc) rfl
        | some last =>
            rw [hfront] at hlast
            exact hlast

instance decidableVerbatim : (s : List Char) → Decidable (Verbatim s)
  | [] => .isTrue verbatim_nil
  | _ :: s =>
    have := decidableVerbatim s
    decidable_of_iff _ verbatim_cons.symm

/-! ## Backslashes and brackets -/

/-- The number of brackets and backslashes in a text. -/
def marks (s : List Char) : Nat :=
  s.countP fun c => c == '[' || c == '\\'

@[simp] theorem marks_nil : marks [] = 0 := rfl

@[simp] theorem marks_append (s t : List Char) :
    marks (s ++ t) = marks s + marks t :=
  List.countP_append

@[simp] theorem marks_replicate (n : Nat) :
    marks (List.replicate n '\\') = n := by
  simp [marks, List.countP_replicate]

@[simp] theorem marks_open (s : List Char) :
    marks ('[' :: s) = marks s + 1 := by
  simp [marks]

@[simp] theorem marks_close (s : List Char) : marks (']' :: s) = marks s := by
  simp [marks]

/-- A text is its backslashes at the front and a rest. -/
theorem exists_slashes (s : List Char) :
    ∃ n rest, s = List.replicate n '\\' ++ rest ∧
      s.takeWhile (· == '\\') = List.replicate n '\\' := by
  have hslashes : s.takeWhile (· == '\\') =
      List.replicate (s.takeWhile (· == '\\')).length '\\' := by
    rw [List.eq_replicate_iff]
    refine ⟨rfl, ?_⟩
    intro c hc
    exact beq_iff_eq.mp (List.all_eq_true.mp List.all_takeWhile c hc)
  refine ⟨(s.takeWhile (· == '\\')).length, s.dropWhile (· == '\\'), ?_,
    hslashes⟩
  rw [← hslashes, List.takeWhile_append_dropWhile]

theorem not_verbatim_of_slash (n : Nat) (rest : List Char) :
    ¬Verbatim (List.replicate (n + 1) '\\' ++ '[' :: rest) := by
  intro h
  have hlast := (h _ rest rfl).2
  simp [List.getLast?_replicate] at hlast

theorem not_verbatim_of_inside {body after rest : List Char}
    (hinside : inside? rest = some (body, after)) (n : Nat) :
    ¬Verbatim (List.replicate n '\\' ++ '[' :: rest) := by
  intro h
  have hnone := (h _ rest rfl).1
  rw [hinside] at hnone
  cases hnone

theorem verbatim_slashes (n : Nat) {rest : List Char}
    (hrest : rest.head? ≠ some '[') :
    Verbatim (List.replicate n '\\' ++ rest) ↔ Verbatim rest := by
  induction n with
  | zero => simp
  | succ n ih =>
      rw [List.replicate_succ, List.cons_append, verbatim_cons, ih]
      cases n <;> simp [hrest, List.replicate_succ]

theorem inside?_eq_some {s body after : List Char}
    (h : inside? s = some (body, after)) : s = body ++ ']' :: after := by
  simp only [inside?] at h
  generalize hbody : s.takeWhile (fun c => c != '[' && c != ']') = front at h
  have hdrop : s = front ++ s.drop front.length := by
    have hsplit := List.takeWhile_append_dropWhile
      (p := fun c => c != '[' && c != ']') (l := s)
    rw [hbody] at hsplit
    rw [← hsplit]
    simp
  split at h
  next c tail rest _ hrest =>
    split at h
    · cases h
      rw [← hrest]
      exact hdrop
    · cases h
  next => cases h

/-! ## One step of cutting -/

/-- The front of a text is cut off as it stands, and what follows it decides
whether the text is verbatim. -/
def Keeps (fuel : Nat) (s : List Char) : Prop :=
  ∃ text next,
    pieces (fuel + 1) s = .text text :: pieces fuel next ∧
    s = text ++ next ∧ next.length < s.length ∧
    (Verbatim s ↔ Verbatim next)

/-- A mark at the front of a text is lost, with a tag or without one. -/
def Loses (fuel : Nat) (s : List Char) : Prop :=
  ¬Verbatim s ∧
  ∃ text tags next,
    pieces (fuel + 1) s = .text text :: (tags ++ pieces fuel next) ∧
    next.length < s.length ∧ marks text + marks next < marks s ∧
    (tags = [] ∨ ∃ body, tags = [tagOf body])

theorem keeps_of_plain (fuel : Nat) {n : Nat} {s rest : List Char}
    (hne : s ≠ []) (hs : s = List.replicate n '\\' ++ rest)
    (hslashes : s.takeWhile (· == '\\') = List.replicate n '\\')
    (hrest : rest.head? ≠ some '[') : Keeps fuel s := by
  obtain ⟨c, tail, rfl⟩ := List.exists_cons_of_ne_nil hne
  have hdrop : (c :: tail).drop n = rest := by simp [hs]
  cases n with
  | zero =>
      have hslash : c ≠ '\\' := by
        rintro rfl
        simp at hslashes
      rw [List.drop_zero] at hdrop
      subst hdrop
      have hbracket : c ≠ '[' := by simpa using hrest
      refine ⟨[c], tail, ?_, rfl, by simp, ?_⟩
      · simp [pieces, hslashes, hbracket]
      · rw [verbatim_cons]
        simp [hslash, hbracket]
  | succ n =>
      refine ⟨List.replicate (n + 1) '\\', rest, ?_, hs, ?_, ?_⟩
      · simp only [pieces, hslashes, List.length_replicate, hdrop]
        split
        · simp at hrest
        · rfl
      · have hlength := congrArg List.length hs
        rw [List.length_append, List.length_replicate] at hlength
        omega
      · rw [hs]
        exact verbatim_slashes (n + 1) hrest

theorem keeps_of_bracket (fuel : Nat) {rest : List Char}
    (hinside : inside? rest = none) : Keeps fuel ('[' :: rest) := by
  refine ⟨['['], rest, ?_, rfl, by simp, ?_⟩
  · simp [pieces, hinside]
  · rw [verbatim_cons]
    simp [hinside]

theorem loses_of_slash (fuel : Nat) {n : Nat} {s rest : List Char}
    (hs : s = List.replicate (n + 1) '\\' ++ '[' :: rest)
    (hslashes : s.takeWhile (· == '\\') = List.replicate (n + 1) '\\')
    (hinside : inside? rest = none) : Loses fuel s := by
  have hne : s ≠ [] := by simp [hs]
  have hdrop : s.drop (n + 1) = '[' :: rest := by simp [hs]
  refine ⟨?_, List.replicate n '\\' ++ ['['], [], rest, ?_, ?_, ?_, .inl rfl⟩
  · rw [hs]
    exact not_verbatim_of_slash n rest
  · obtain ⟨c, tail, rfl⟩ := List.exists_cons_of_ne_nil hne
    simp only [pieces, hslashes, List.length_replicate, hdrop, hinside,
      List.dropLast_replicate]
    rfl
  · simp [hs]
    omega
  · simp [hs]

theorem loses_of_tag (fuel : Nat) {n : Nat} {s rest body after : List Char}
    (hs : s = List.replicate n '\\' ++ '[' :: rest)
    (hslashes : s.takeWhile (· == '\\') = List.replicate n '\\')
    (hinside : inside? rest = some (body, after)) : Loses fuel s := by
  have hne : s ≠ [] := by simp [hs]
  have hdrop : s.drop n = '[' :: rest := by simp [hs]
  have hrest := inside?_eq_some hinside
  have hmarks : marks s = n + (marks body + marks after + 1) := by
    rw [hs, hrest]
    simp
  have hlength : after.length < s.length := by
    rw [hs, hrest]
    simp
    omega
  have hpieces : pieces (fuel + 1) s =
      if n % 2 = 1 then
        .text (List.replicate (n / 2) '\\' ++ '[' :: body ++ [']']) ::
          pieces fuel after
      else
        .text (List.replicate (n / 2) '\\') :: tagOf body ::
          pieces fuel after := by
    obtain ⟨c, tail, rfl⟩ := List.exists_cons_of_ne_nil hne
    simp only [pieces, hslashes, List.length_replicate, hdrop, hinside]
  refine ⟨?_, ?_⟩
  · rw [hs]
    exact not_verbatim_of_inside hinside n
  by_cases hodd : n % 2 = 1
  · rw [if_pos hodd] at hpieces
    refine ⟨_, [], after, hpieces, hlength, ?_, .inl rfl⟩
    simp
    omega
  · rw [if_neg hodd] at hpieces
    refine ⟨_, [tagOf body], after, hpieces, hlength, ?_, .inr ⟨body, rfl⟩⟩
    simp
    omega

theorem keeps_or_loses (fuel : Nat) {s : List Char} (hne : s ≠ []) :
    Keeps fuel s ∨ Loses fuel s := by
  obtain ⟨n, rest, hs, hslashes⟩ := exists_slashes s
  by_cases hbracket : rest.head? = some '['
  · obtain ⟨after, rfl⟩ := List.head?_eq_some_iff.mp hbracket
    cases hinside : inside? after with
    | none =>
        cases n with
        | zero =>
            rw [hs]
            exact .inl (keeps_of_bracket fuel hinside)
        | succ n => exact .inr (loses_of_slash fuel hs hslashes hinside)
    | some found => exact .inr (loses_of_tag fuel hs hslashes hinside)
  · exact .inl (keeps_of_plain fuel hne hs hslashes hbracket)

/-! ## What is shown -/

/-- A tag shows nothing; it only changes which tags are open. -/
theorem exists_shown_of_tag {opened : List OpenTag} {name t : List Char}
    {parameters : Option (List Char)} {rest : List Piece}
    (h : shown opened (.tag name parameters :: rest) = some t) :
    ∃ others, shown others rest = some t := by
  by_cases hclose : ∃ bare, name = '/' :: bare
  · obtain ⟨bare, rfl⟩ := hclose
    -- with a name or without one, some tag is closed and the rest is shown
    have hfound : ∃ found : OpenTag × List OpenTag,
        (if found.1.name.startsWith "@" &&
            !handlerReads found.1.parameters then none
          else shown found.2 rest) = some t := by
      cases opened <;> simp only [shown] at h <;> split at h
      all_goals
        obtain ⟨found, -, h⟩ := Option.bind_eq_some_iff.mp h
        exact ⟨found, h⟩
    obtain ⟨⟨closed, others⟩, hfound⟩ := hfound
    refine ⟨others, ?_⟩
    split at hfound
    · cases hfound
    · exact hfound
  · rw [shown] at h
    · exact ⟨_, h⟩
    · intro bare hbare
      exact hclose ⟨bare, hbare⟩

/-- A verbatim text is shown as it is. -/
theorem shown_of_verbatim {fuel : Nat} {s : List Char}
    (hfuel : s.length < fuel) (opened : List OpenTag) (hs : Verbatim s) :
    shown opened (pieces fuel s) = some s := by
  induction fuel generalizing s with
  | zero => omega
  | succ fuel ih =>
      by_cases hne : s = []
      · rw [hne]
        rfl
      rcases keeps_or_loses fuel hne with
        ⟨text, next, hpieces, hsplit, hlength, hiff⟩ | ⟨hnot, -⟩
      · have hnext := ih (by omega) (hiff.mp hs)
        rw [hpieces, shown, hnext, hsplit]
        rfl
      · exact absurd hs hnot

/-- What is shown of a text has no more marks than the text, and fewer if the
text is not verbatim. -/
theorem marks_shown {fuel : Nat} {s t : List Char} {opened : List OpenTag}
    (hfuel : s.length < fuel) (h : shown opened (pieces fuel s) = some t) :
    marks t ≤ marks s ∧ (¬Verbatim s → marks t < marks s) := by
  induction fuel generalizing s t opened with
  | zero => omega
  | succ fuel ih =>
      by_cases hne : s = []
      · subst hne
        cases h
        exact ⟨Nat.le_refl _, fun hnot => absurd verbatim_nil hnot⟩
      rcases keeps_or_loses fuel hne with
        ⟨text, next, hpieces, hsplit, hlength, hiff⟩ |
          ⟨hnot, text, tags, next, hpieces, hlength, hmarks, htags⟩
      · rw [hpieces, shown] at h
        obtain ⟨t, ht, rfl⟩ := Option.map_eq_some_iff.mp h
        obtain ⟨hle, hlt⟩ := ih (by omega) ht
        rw [hiff, hsplit, marks_append, marks_append]
        refine ⟨by omega, ?_⟩
        intro hnext
        have hfewer := hlt hnext
        omega
      · rw [hpieces, shown] at h
        obtain ⟨t, ht, rfl⟩ := Option.map_eq_some_iff.mp h
        have hrest : ∃ others, shown others (pieces fuel next) = some t := by
          rcases htags with rfl | ⟨body, rfl⟩
          · exact ⟨opened, ht⟩
          · exact exists_shown_of_tag ht
        obtain ⟨others, hrest⟩ := hrest
        have hle := (ih (by omega) hrest).1
        rw [marks_append]
        exact ⟨by omega, fun _ => by omega⟩

end TokenSplit.Console.Markup
