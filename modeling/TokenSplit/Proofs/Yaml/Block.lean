import TokenSplit.Proofs.Yaml.Line

/-!
# Blocks of keys and values

The entries of a block stand on lines of their own, all at the same indentation, and what is under
a key is a word on its line or a block that is indented further.  So a block is cut into tokens by
what its entries are cut into: whatever is under its keys, the first one opens it, the others
continue it, and it ends with the last line that is indented enough.
-/

namespace TokenSplit.Yaml

/-- A word that is a text by its form and short enough for a key. -/
structure Label where
  word : List Char
  isWord : IsWord word
  length_le : word.length ≤ 1024
  isText : Tag.ofPlain word = .text

namespace Label

/-- The text that a label is. -/
def name (l : Label) : String :=
  String.ofList l.word

/-- A text as a label. -/
def ofString (s : String)
    (hs : IsWord s.toList ∧ s.toList.length ≤ 1024 ∧
      Tag.ofPlain s.toList = .text) : Label where
  word := s.toList
  isWord := hs.1
  length_le := hs.2.1
  isText := hs.2.2

theorem name_ofString (s : String)
    (hs : IsWord s.toList ∧ s.toList.length ≤ 1024 ∧
      Tag.ofPlain s.toList = .text) : (ofString s hs).name = s :=
  String.ofList_toList

end Label

/-- Entries of a block: there is one, and no label stands before two of them. -/
structure Block (α : Type) where
  entries : List (Label × α)
  nonempty : entries ≠ []
  distinct : (entries.map fun e => e.1.word).Nodup

section Entries

variable {α : Type} (text : α → List Char) (tokens : α → List Token)

/-- An entry as it is written, where `text` writes what is under its label. -/
def entryText (e : Label × α) : List Char :=
  e.1.word ++ ':' :: text e.2

/-- Entries on lines of their own that are indented. -/
def linesText (indent : Nat) (entries : List (Label × α)) : List Char :=
  entries.flatMap fun e =>
    '\n' :: (List.replicate indent ' ' ++ entryText text e)

/-- The tokens of an entry, where `tokens` are those of what is under its label. -/
def entryTokens (e : Label × α) : List Token :=
  .key :: .scalar e.1.name true :: .value :: tokens e.2

/-- The tokens of a block. -/
def blockTokens (b : Block α) : List Token :=
  .blockMapping :: b.entries.flatMap (entryTokens tokens) ++ [.blockEnd]

/-- A block that is a document: no line end stands in front of its first line. -/
def blockText (b : Block α) : List Char :=
  (linesText text 0 b.entries).tail

variable {text}

theorem linesText_cons (indent : Nat) (e : Label × α)
    (entries : List (Label × α)) (rest : List Char) :
    linesText text indent (e :: entries) ++ rest =
      '\n' :: (List.replicate indent ' ' ++ (e.1.word ++ ':' ::
        (text e.2 ++ (linesText text indent entries ++ rest)))) := by
  simp [linesText, entryText]

/-- A line end belongs before every line or behind every line. -/
theorem blockText_append (b : Block α) :
    blockText text b ++ ['\n'] =
      b.entries.flatMap fun e => entryText text e ++ ['\n'] := by
  have hlines : ∀ entries : List (Label × α),
      linesText text 0 entries ++ ['\n'] =
        '\n' :: entries.flatMap fun e => entryText text e ++ ['\n'] := by
    intro entries
    induction entries with
    | nil => rfl
    | cons e entries ih =>
        rw [linesText_cons, ih]
        simp [entryText]
  have hblock := hlines b.entries
  obtain ⟨entries, hnonempty, hdistinct⟩ := b
  cases entries with
  | nil => exact absurd rfl hnonempty
  | cons e entries => exact (List.cons.inj hblock).2

end Entries

/-! ## The depth of blocks -/

/-- Tokens with no more than so many collections inside each other, all of which they close. -/
def Shallow (height : Nat) (tokens : List Token) : Prop :=
  ∀ limit depth rest, depth + height ≤ limit →
    Cut.tooDeep? limit depth rest = none →
    Cut.tooDeep? limit depth (tokens ++ rest) = none

theorem shallow_singleton (height : Nat) {t : Token} (hopens : t.opens = false)
    (hcloses : t.closes = false) : Shallow height [t] := by
  intro limit depth rest _ hrest
  have hdepth : t.depthAfter depth = depth := by
    simp [Token.depthAfter, hopens, hcloses]
  simp [Cut.tooDeep?, hopens, hdepth, hrest]

theorem Shallow.append {height : Nat} {first second : List Token}
    (hfirst : Shallow height first) (hsecond : Shallow height second) :
    Shallow height (first ++ second) := by
  intro limit depth rest hlimit hrest
  rw [List.append_assoc]
  exact hfirst limit depth _ hlimit (hsecond limit depth rest hlimit hrest)

theorem shallow_entries {α : Type} {tokens : α → List Token} {height : Nat}
    {entries : List (Label × α)}
    (hentries : ∀ e ∈ entries, Shallow height (tokens e.2)) :
    Shallow height (entries.flatMap (entryTokens tokens)) := by
  induction entries with
  | nil =>
      intro limit depth rest _ hrest
      exact hrest
  | cons e entries ih =>
      obtain ⟨hentry, hothers⟩ := List.forall_mem_cons.mp hentries
      have hkey : Shallow height [.key] := shallow_singleton height rfl rfl
      have hname : Shallow height [.scalar e.1.name true] :=
        shallow_singleton height rfl rfl
      have hvalue : Shallow height [.value] := shallow_singleton height rfl rfl
      have hlabel := (hkey.append hname).append hvalue
      exact (hlabel.append hentry).append (ih hothers)

/-- A block is one deeper than what is under its labels. -/
theorem shallow_block {α : Type} {tokens : α → List Token} {height : Nat}
    {b : Block α} (hentries : ∀ e ∈ b.entries, Shallow height (tokens e.2)) :
    Shallow (height + 1) (blockTokens tokens b) := by
  intro limit depth rest hlimit hrest
  have hinside : depth + 1 + height ≤ limit := by omega
  have hopen : (depth == limit) = false := by
    rw [beq_eq_false_iff_ne]
    omega
  have hclose :
      Cut.tooDeep? limit (depth + 1) (.blockEnd :: rest) = none := by
    simp [Cut.tooDeep?, Token.opens, Token.closes, Token.depthAfter, hrest]
  have hentries := shallow_entries hentries limit _ _ hinside hclose
  simp [blockTokens, Cut.tooDeep?, Token.opens, Token.depthAfter, hopen,
    hentries]

theorem Shallow.within_eq {height limit : Nat} {tokens : List Token}
    (h : Shallow height tokens) (hlimit : height ≤ limit) :
    (Cut.whole tokens).within limit = .whole tokens := by
  have hdepth : Cut.tooDeep? limit 0 (tokens ++ []) = none :=
    h limit 0 [] (by omega) rfl
  rw [List.append_nil] at hdepth
  simp only [Cut.within, Cut.whole, hdepth]

/-! ## Cutting entries -/

namespace Scanner

/-- Behind the colon of a key in a block at a column, a text is cut into tokens, whatever line
comes after it. -/
structure Cuts (indent : Nat) (text : List Char) (tokens : List Token) :
    Prop where
  wordEnds : ∀ rest, wordEnds (text ++ rest)
  leads : ∀ {rest : List Char}, EndsLine (indent + 1) rest →
    ∀ {c : Cursor}, c.rest = text ++ rest → indent ≤ c.column →
    ∀ ts margins, ∃ d, d.rest = rest ∧
      Leads (resting false c ts (indent + 1) margins)
        (resting false d (tokens.reverse ++ ts) (indent + 1) margins)

theorem cuts_word {w : List Char} (hw : IsWord w) (indent : Nat) :
    Cuts indent (' ' :: w) [.scalar (String.ofList w) true] := by
  refine ⟨fun _ => rfl, ?_⟩
  intro rest hrest c hc hcolumn ts margins
  have hmargin : indent + 1 ≤ c.column + 2 := by omega
  exact leads_value hw hrest hc hmargin ts margins

section Entries

variable {α : Type} {text : α → List Char} {tokens : α → List Token}

theorem endsLine_linesText {indent : Nat} (entries : List (Label × α))
    {rest : List Char} (hrest : EndsLine (indent + 1) rest) :
    EndsLine (indent + 1) (linesText text indent entries ++ rest) := by
  cases entries with
  | nil => exact hrest
  | cons e entries =>
      rw [linesText_cons]
      exact .line (Nat.lt_succ_self indent) (e.1.isWord.begins_append _)

section

variable {indent : Nat} {e : Label × α}
  (he : Cuts indent (text e.2) (tokens e.2)) {rest : List Char}
  (hrest : EndsLine (indent + 1) rest) {c : Cursor}
  (hc : c.rest = e.1.word ++ ':' :: (text e.2 ++ rest))
  (hcolumn : c.column = indent)

include he hrest hc hcolumn

/-- The first entry of a block opens it. -/
theorem leads_first {margin : Nat} (hmargin : margin ≤ indent)
    (ts : List Token) (margins : List Nat) :
    ∃ d, d.rest = rest ∧
      Leads (resting true c ts margin margins)
        (resting false d
          ((entryTokens tokens e).reverse ++ .blockMapping :: ts)
          (indent + 1) (margin :: margins)) := by
  have hopens : margin ≤ c.column := by omega
  obtain ⟨k, hk, hright, hkey⟩ := leads_key e.1.isWord e.1.length_le
    (he.wordEnds rest) hc (Nat.le_succ_of_le hopens) ts margins
  rw [behindColon, if_pos hopens, hcolumn] at hkey
  obtain ⟨d, hd, hvalue⟩ := he.leads hrest hk (by omega)
    (.value :: .scalar e.1.name true :: .key :: .blockMapping :: ts)
    (margin :: margins)
  refine ⟨d, hd, ?_⟩
  simpa [entryTokens] using hkey.trans hvalue

/-- Any later entry of a block continues it. -/
theorem leads_next (ts : List Token) (margins : List Nat) :
    ∃ d, d.rest = rest ∧
      Leads (resting true c ts (indent + 1) margins)
        (resting false d ((entryTokens tokens e).reverse ++ ts)
          (indent + 1) margins) := by
  have hinside : indent + 1 ≤ c.column + 1 := by omega
  have hopens : ¬indent + 1 ≤ c.column := by omega
  obtain ⟨k, hk, hright, hkey⟩ := leads_key e.1.isWord e.1.length_le
    (he.wordEnds rest) hc hinside ts margins
  rw [behindColon, if_neg hopens] at hkey
  obtain ⟨d, hd, hvalue⟩ := he.leads hrest hk (by omega)
    (.value :: .scalar e.1.name true :: .key :: ts) margins
  refine ⟨d, hd, ?_⟩
  simpa [entryTokens] using hkey.trans hvalue

end

theorem leads_lines {indent : Nat} {entries : List (Label × α)}
    (hentries : ∀ e ∈ entries, Cuts indent (text e.2) (tokens e.2))
    {rest : List Char} (hrest : EndsLine (indent + 1) rest) {c : Cursor}
    (hc : c.rest = linesText text indent entries ++ rest) (ts : List Token)
    (margins : List Nat) :
    ∃ d, d.rest = rest ∧
      Leads (resting false c ts (indent + 1) margins)
        (resting false d ((entries.flatMap (entryTokens tokens)).reverse ++ ts)
          (indent + 1) margins) := by
  induction entries generalizing c ts with
  | nil => exact ⟨c, hc, .refl _⟩
  | cons e entries ih =>
      have hlines :
          EndsLine (indent + 1) (linesText text indent entries ++ rest) :=
        endsLine_linesText entries hrest
      rw [linesText_cons] at hc
      obtain ⟨k, hk, hcolumn, hline⟩ := leads_line
        (e.1.isWord.begins_append _) hc ts (indent + 1) margins
      obtain ⟨l, hl, hentry⟩ := leads_next
        (hentries e List.mem_cons_self) hlines hk hcolumn ts margins
      obtain ⟨d, hd, hrest⟩ := ih
        (fun f hf => hentries f (List.mem_cons_of_mem e hf)) hl
        ((entryTokens tokens e).reverse ++ ts)
      refine ⟨d, hd, ?_⟩
      simpa using (hline.trans hentry).trans hrest

/-- The entries of a block, from where the first one begins to the end of the last one. -/
theorem leads_entries {indent : Nat} {e : Label × α}
    {entries : List (Label × α)}
    (hentries : ∀ f ∈ e :: entries, Cuts indent (text f.2) (tokens f.2))
    {rest : List Char} (hrest : EndsLine (indent + 1) rest) {c : Cursor}
    (hc : c.rest = e.1.word ++ ':' ::
      (text e.2 ++ (linesText text indent entries ++ rest)))
    (hcolumn : c.column = indent) {margin : Nat} (hmargin : margin ≤ indent)
    (ts : List Token) (margins : List Nat) :
    ∃ d, d.rest = rest ∧
      Leads (resting true c ts margin margins)
        (resting false d
          (((e :: entries).flatMap (entryTokens tokens)).reverse ++
            .blockMapping :: ts)
          (indent + 1) (margin :: margins)) := by
  obtain ⟨k, hk, hfirst⟩ := leads_first (hentries e List.mem_cons_self)
    (endsLine_linesText entries hrest) hc hcolumn hmargin ts margins
  obtain ⟨d, hd, hothers⟩ := leads_lines
    (fun f hf => hentries f (List.mem_cons_of_mem e hf)) hrest hk
    ((entryTokens tokens e).reverse ++ .blockMapping :: ts) (margin :: margins)
  refine ⟨d, hd, ?_⟩
  simpa using hfirst.trans hothers

/-- Entries that are indented further make a block of their own. -/
theorem cuts_block {indent deeper : Nat} (hdeeper : indent < deeper)
    {b : Block α}
    (hentries : ∀ e ∈ b.entries, Cuts deeper (text e.2) (tokens e.2)) :
    Cuts indent (linesText text deeper b.entries) (blockTokens tokens b) := by
  obtain ⟨entries, hnonempty, hdistinct⟩ := b
  cases entries with
  | nil => exact absurd rfl hnonempty
  | cons e entries =>
      refine ⟨fun _ => rfl, ?_⟩
      intro rest hrest c hc hcolumn ts margins
      have hends : EndsLine deeper rest := hrest.mono hdeeper
      rw [linesText_cons] at hc
      obtain ⟨k, hk, hcolumn, hline⟩ := leads_line
        (e.1.isWord.begins_append _) hc ts (indent + 1) margins
      obtain ⟨d, hd, hblock⟩ := leads_entries hentries
        (hends.mono (Nat.le_succ deeper)) hk hcolumn hdeeper ts margins
      have hclose : EndsLine deeper d.rest := by
        rw [hd]
        exact hends
      refine ⟨d, hd, ?_⟩
      have hcut := (hline.trans hblock).trans (leads_close hclose _ _ _)
      simpa [blockTokens] using hcut

/-- A block is a document, maybe with a line end behind it. -/
theorem tokens_block {b : Block α}
    (hentries : ∀ e ∈ b.entries, Cuts 0 (text e.2) (tokens e.2))
    {ending : List Char} (hending : ending = [] ∨ ending = ['\n']) :
    Yaml.tokens (blockText text b ++ ending) =
      .whole (blockTokens tokens b) := by
  obtain ⟨entries, hnonempty, hdistinct⟩ := b
  cases entries with
  | nil => exact absurd rfl hnonempty
  | cons e entries =>
      let s := blockText text ⟨e :: entries, hnonempty, hdistinct⟩ ++ ending
      have hs : s = e.1.word ++ ':' ::
          (text e.2 ++ (linesText text 0 entries ++ ending)) := by
        simp [s, blockText, linesText, entryText]
      have hmark : s.head? ≠ some byteOrderMark := by
        rw [hs]
        exact (e.1.isWord.begins_append _).head?_ne (by decide)
      have hends : EndsLine 1 ending := by
        rcases hending with rfl | rfl
        · exact .document
        · exact .line Nat.zero_lt_one .document
      obtain ⟨d, hd, steps, hsteps, hrun⟩ := leads_entries
        (c := Cursor.start s) hentries hends hs rfl (Nat.le_refl 0) [] []
      rw [← hd] at hending
      have hlength : steps ≤ s.length := Nat.le_of_add_right_le hsteps
      have hfuel : s.length + 2 = s.length + 1 - steps + 1 + steps := by omega
      have hstart : Yaml.tokens s = run (s.length + 2)
          (resting true (Cursor.start s) [] 0 []) := by
        rw [Yaml.tokens, if_neg hmark]
        rfl
      change Yaml.tokens s = _
      rw [hstart, hfuel, hrun _ _ (run_ending hending _ _)]
      simp [blockTokens]

end Entries

end Scanner

end TokenSplit.Yaml
