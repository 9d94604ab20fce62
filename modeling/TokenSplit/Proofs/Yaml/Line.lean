import TokenSplit.Proofs.Yaml.Word

/-!
# Lines of keys and values

A line of a document in block style is a key with a colon behind it, and maybe a word as its
value.  Where the line begins decides which blocks end before it and whether it opens one.  A value
only ends where the next line begins, so the scanner is already there when the value is cut; to say
what comes next it does no harm to put it back to the end of the value.
-/

namespace TokenSplit.Yaml

/-- What ends the word on a line whose block begins left of a margin: the end of the document, or a
next line that begins left of the margin as well. -/
inductive EndsLine (margin : Nat) : List Char → Prop where
  | document : EndsLine margin []
  | line {indent : Nat} (hindent : indent < margin) {rest : List Char}
      (hrest : BeginsWord rest) :
      EndsLine margin ('\n' :: (List.replicate indent ' ' ++ rest))

theorem EndsLine.mono {margin deeper : Nat} (hle : margin ≤ deeper)
    {rest : List Char} (hrest : EndsLine margin rest) :
    EndsLine deeper rest := by
  cases hrest with
  | document => exact .document
  | line hindent hrest => exact .line (Nat.lt_of_lt_of_le hindent hle) hrest

/-! ## Reading the word at the end of a line -/

/-- No mark of a document stands behind an indentation. -/
theorem atMark_indented {mark : Char} (hmark : mark ∈ marks)
    (hblank : mark ≠ ' ') {rest : List Char} (hrest : BeginsWord rest)
    (indent index line column : Nat) :
    Cursor.atMark mark
      ⟨List.replicate indent ' ' ++ rest, index, line, column⟩ = false := by
  cases indent with
  | succ indent => exact Cursor.atMark_eq_false rfl hblank.symm
  | zero =>
      cases hrest with
      | document => rfl
      | word hc rest =>
          exact Cursor.atMark_eq_false rfl (ne_of_mem_marks hc hmark)

theorem plainGap_line {indent : Nat} {rest : List Char}
    (hrest : BeginsWord rest) (index line column : Nat) :
    plainGap ⟨'\n' :: (List.replicate indent ' ' ++ rest), index, line,
        column⟩ =
      ([' '], true, ⟨rest, index + 1 + indent, line + 1, indent⟩) := by
  have hspan : Cursor.span (· == ' ')
      ⟨'\n' :: (List.replicate indent ' ' ++ rest), index, line, column⟩ =
      ([], ⟨'\n' :: (List.replicate indent ' ' ++ rest), index, line,
        column⟩) := rfl
  have hbreak : Cursor.lineBreak
      ⟨'\n' :: (List.replicate indent ' ' ++ rest), index, line, column⟩ =
      (['\n'], ⟨List.replicate indent ' ' ++ rest, index + 1, line + 1,
        0⟩) := rfl
  have hboundary : Cursor.atBoundary
      ⟨List.replicate indent ' ' ++ rest, index + 1, line + 1, 0⟩ =
      false := by
    rw [Cursor.atBoundary, atMark_indented (by decide) (by decide) hrest,
      atMark_indented (by decide) (by decide) hrest]
    rfl
  simp only [plainGap, hspan, hbreak, hboundary, plainBreaks,
    hrest.skipBlanks_eq, hrest.lineBreak_eq, Nat.zero_add]
  rfl

/-- A word at the end of a line is read up to the first word of the next line. -/
theorem readPlain_line {margin indent : Nat} (hindent : indent < margin)
    {w rest : List Char} (hw : IsWord w) (hrest : BeginsWord rest)
    (index line column : Nat) :
    readPlain false margin
        ⟨w ++ '\n' :: (List.replicate indent ' ' ++ rest), index, line,
          column⟩ =
      ⟨w, true, ⟨rest, index + w.length + 1 + indent, line + 1,
        indent⟩⟩ := by
  have hrun : plainRun false
      (w ++ '\n' :: (List.replicate indent ' ' ++ rest)) = w := by
    rw [plainRun_append false hw.chars]
    exact List.append_nil w
  have hcomment : Cursor.peek?
      ⟨w ++ '\n' :: (List.replicate indent ' ' ++ rest), index, line, column⟩ ≠
        some '#' :=
    (hw.begins_append _).head?_ne (by decide)
  simp [readPlain, readPlainFrom, hcomment, hrun, hw.nonempty,
    Cursor.advance_word hw, plainGap_line hrest, hindent]

/-! ## Scanners between tokens -/

namespace Scanner

/-- A scanner outside of brackets, with open blocks, where no text may still turn out to be a
key. -/
def resting (allowed : Bool) (c : Cursor) (ts : List Token) (margin : Nat)
    (margins : List Nat) : Scanner where
  cursor := c
  tokens := ts
  size := ts.length
  depth := 0
  margin := margin
  margins := margins
  keyAllowed := allowed
  candidates := []

/-- Whatever one scanner reads to the end is what another reads that comes before it, in as many
more steps as characters are read on the way or fewer. -/
def Leads (s t : Scanner) : Prop :=
  ∃ steps, steps + t.cursor.rest.length ≤ s.cursor.rest.length ∧
    ∀ fuel all, run fuel t = .whole all → run (fuel + steps) s = .whole all

theorem Leads.refl (s : Scanner) : Leads s s :=
  ⟨0, by simp, fun _ _ hrun => hrun⟩

theorem Leads.trans {s t u : Scanner} (hst : Leads s t) (htu : Leads t u) :
    Leads s u := by
  obtain ⟨first, hfirst, hs⟩ := hst
  obtain ⟨second, hsecond, ht⟩ := htu
  refine ⟨second + first, by omega, fun fuel all hrun => ?_⟩
  rw [← Nat.add_assoc]
  exact hs _ _ (ht _ _ hrun)

theorem run_succ_of_step {s t : Scanner} (h : s.step = .ok (t, false))
    (fuel : Nat) : run (fuel + 1) s = run fuel t := by
  simp only [run, h]

theorem run_succ_of_end {s t : Scanner} (h : s.step = .ok (t, true))
    (fuel : Nat) : run (fuel + 1) s = .whole t.tokens.reverse := by
  simp only [run, h]

theorem breakOff_ne_whole (s : Scanner) (problem : Problem)
    (all : List Token) : s.breakOff problem ≠ .whole all := by
  intro h
  cases h

/-- Scanners whose next steps are the same read the same to the end.  They may break off at
different places, since one can be ahead of the other. -/
theorem run_eq_whole_of_step_eq {s t : Scanner} (h : s.step = t.step)
    {fuel : Nat} {all : List Token} (hrun : run fuel t = .whole all) :
    run fuel s = .whole all := by
  cases fuel with
  | zero => exact absurd hrun (breakOff_ne_whole t _ all)
  | succ fuel =>
      rw [run] at hrun
      rw [run, h]
      split at hrun
      · exact hrun
      · exact hrun
      next problem _ => exact absurd hrun (breakOff_ne_whole t problem all)

theorem leads_of_step_eq {s t : Scanner} (h : s.step = t.step)
    (hlength : t.cursor.rest.length ≤ s.cursor.rest.length) : Leads s t := by
  refine ⟨0, by omega, fun fuel all hrun => ?_⟩
  exact run_eq_whole_of_step_eq h hrun

/-- Scanners that are at the same place once blanks and line ends are stepped over take the same
step. -/
theorem step_eq_of_skipToToken {s t : Scanner}
    (h : s.skipToToken (s.cursor.rest.length + 1) =
      t.skipToToken (t.cursor.rest.length + 1)) : s.step = t.step := by
  simp only [step, h]

/-- Over the end of a line a key may begin. -/
theorem skipToToken_line {indent : Nat} {rest : List Char}
    (hrest : BeginsWord rest) (index line column : Nat) (ts : List Token)
    (margin : Nat) (margins : List Nat) (fuel : Nat) :
    skipToToken (fuel + 2)
        (resting false
          ⟨'\n' :: (List.replicate indent ' ' ++ rest), index, line, column⟩
          ts margin margins) =
      resting true ⟨rest, index + 1 + indent, line + 1, indent⟩ ts
        margin margins := by
  have hskip : skipToToken (fuel + 2)
      (resting false
        ⟨'\n' :: (List.replicate indent ' ' ++ rest), index, line, column⟩
        ts margin margins) =
      skipToToken (fuel + 1)
        (resting true ⟨List.replicate indent ' ' ++ rest, index + 1,
          line + 1, 0⟩ ts margin margins) := rfl
  rw [hskip, skipToToken_blanks hrest rfl, Nat.zero_add]
  rfl

/-- No block ends at a column right of its margin. -/
theorem unwind_of_le {s : Scanner} {column : Nat} (hle : s.margin ≤ column) :
    s.unwind column = s := by
  have hinside : ¬column < s.margin := Nat.not_lt.mpr hle
  unfold unwind
  split
  · rfl
  · cases s.margins with
    | nil => rfl
    | cons outer margins => exact if_neg hinside

/-! ## Keys -/

/-- A scanner behind the word of a key and before its colon. -/
def behindKey (key : List Char) (candidate : Candidate) (c : Cursor)
    (ts : List Token) (margin : Nat) (margins : List Nat) : Scanner :=
  { resting false c (.scalar (String.ofList key) true :: ts) margin margins with
    candidates := [(0, candidate)] }

/-- A scanner behind the colon of a key, which has opened a block if it is right of the margin. -/
def behindColon (key : List Char) (column : Nat) (c : Cursor)
    (ts : List Token) (margin : Nat) (margins : List Nat) : Scanner :=
  if margin ≤ column then
    resting false c
      (.value :: .scalar (String.ofList key) true :: .key :: .blockMapping ::
        ts) (column + 1) (margin :: margins)
  else
    resting false c
      (.value :: .scalar (String.ofList key) true :: .key :: ts) margin margins

theorem step_key {key rest : List Char} (hkey : IsWord key)
    (hrest : wordEnds rest) {index line column margin : Nat}
    (hmargin : margin ≤ column + 1) (ts : List Token) (margins : List Nat) :
    step (resting true ⟨key ++ ':' :: rest, index, line, column⟩ ts
        margin margins) =
      .ok (behindKey key
        ⟨ts.length, margin == column + 1, index, line, column⟩
        ⟨':' :: rest, index + key.length, line, column + key.length⟩ ts margin
        margins, false) := by
  let s :=
    resting true ⟨key ++ ':' :: rest, index, line, column⟩ ts margin margins
  have hcursor : s.cursor =
      ⟨List.replicate 0 ' ' ++ (key ++ ':' :: rest), index, line, column⟩ := rfl
  have hinside : s.unwind (s.cursor.column + 1) = s := unwind_of_le hmargin
  have hread := readPlain_word false margin hkey (.key hrest) index line column
  exact step_word hkey hcursor rfl rfl hinside rfl hread

/-- A token that belongs behind others is put before the latest ones. -/
theorem insert_resting (c : Cursor) (latest : List Token)
    {before : List Token} {position : Nat}
    (hposition : position = before.length) (t : Token) (margin : Nat)
    (margins : List Nat) :
    insert position t (resting false c (latest ++ before) margin margins) =
      resting false c (latest ++ t :: before) margin margins := by
  have hbehind : (latest ++ before).length - position = latest.length := by
    rw [List.length_append]
    omega
  have hsize : (latest ++ before).length + 1 =
      (latest ++ t :: before).length := by
    rw [List.length_append, List.length_append, List.length_cons]
    omega
  simp only [insert, resting, hbehind, hsize, List.take_left, List.drop_left]

section

variable {k : Candidate} {s keyed opened : Scanner}
  (hkey : insert k.position .key
    { s with candidates := s.candidates.filter fun k => k.1 != s.depth } =
      keyed)
  (hflow : keyed.inFlow = false)

include hkey hflow

theorem settle_of_opens (hopen : keyed.openBlock k.column = some opened) :
    s.settle k = opened.insert k.position .blockMapping := by
  simp only [settle, hkey, hflow, hopen]
  rfl

theorem settle_of_stays (hopen : keyed.openBlock k.column = none) :
    s.settle k = keyed := by
  simp only [settle, hkey, hflow, hopen]
  rfl

end

/-- The word before a colon becomes a key in the block that begins with it, or in the one that is
open. -/
theorem settle_behindKey (key : List Char) {candidate : Candidate}
    {ts : List Token} (hposition : candidate.position = ts.length) (c : Cursor)
    (margin : Nat) (margins : List Nat) :
    (behindKey key candidate c ts margin margins).settle candidate =
      if margin ≤ candidate.column then
        resting false c
          (.scalar (String.ofList key) true :: .key :: .blockMapping :: ts)
          (candidate.column + 1) (margin :: margins)
      else
        resting false c (.scalar (String.ofList key) true :: .key :: ts) margin
          margins := by
  let word := Token.scalar (String.ofList key) true
  let s := behindKey key candidate c ts margin margins
  let keyed := resting false c (word :: .key :: ts) margin margins
  have hkey : insert candidate.position .key
      { s with candidates := s.candidates.filter fun k => k.1 != s.depth } =
      keyed :=
    insert_resting c [word] hposition .key margin margins
  by_cases hopens : margin ≤ candidate.column
  · have hopen : keyed.openBlock candidate.column =
        some (resting false c (word :: .key :: ts) (candidate.column + 1)
          (margin :: margins)) := if_pos hopens
    have hblock := insert_resting c [word, .key] hposition .blockMapping
      (candidate.column + 1) (margin :: margins)
    rw [if_pos hopens]
    exact (settle_of_opens hkey rfl hopen).trans hblock
  · have hstays : keyed.openBlock candidate.column = none := if_neg hopens
    rw [if_neg hopens]
    exact settle_of_stays hkey rfl hstays

section

variable {rest : List Char} (hrest : wordEnds rest)
  (required : Bool) (index line column : Nat) (ts : List Token) (margin : Nat)
  (margins : List Nat)

include hrest

theorem readToken_colon (key : List Char) :
    readToken ':' rest
        (behindKey key ⟨ts.length, required, index, line, column⟩
          ⟨':' :: rest, index + key.length, line, column + key.length⟩ ts
          margin margins) =
      .ok (behindColon key column
        ⟨rest, index + key.length + 1, line, column + key.length + 1⟩ ts margin
        margins) := by
  let candidate : Candidate := ⟨ts.length, required, index, line, column⟩
  let c : Cursor :=
    ⟨':' :: rest, index + key.length, line, column + key.length⟩
  let s := behindKey key candidate c ts margin margins
  have hdash : s.cursor.atMark '-' = false :=
    Cursor.atMark_eq_false rfl (by decide)
  have hdot : s.cursor.atMark '.' = false :=
    Cursor.atMark_eq_false rfl (by decide)
  have hread : s.readToken ':' rest =
      .ok { (s.settle candidate).pushWide .value 1 with
        keyAllowed := false } := by
    simp [readToken, hdash, hdot, hrest]
    rfl
  have hposition : candidate.position = ts.length := rfl
  have hsettle := settle_behindKey key hposition c margin margins
  refine hread.trans ?_
  rw [hsettle, behindColon]
  by_cases hopens : margin ≤ column
  · rw [if_pos hopens, if_pos hopens]
    rfl
  · rw [if_neg hopens, if_neg hopens]
    rfl

/-- At the colon the word before it becomes a key, unless it is too long. -/
theorem step_colon {key : List Char} (hlength : key.length ≤ 1024)
    (hmargin : margin ≤ column + 1) :
    step (behindKey key ⟨ts.length, required, index, line, column⟩
        ⟨':' :: rest, index + key.length, line, column + key.length⟩ ts margin
        margins) =
      .ok (behindColon key column
        ⟨rest, index + key.length + 1, line, column + key.length + 1⟩ ts margin
        margins, false) := by
  let s := behindKey key ⟨ts.length, required, index, line, column⟩
    ⟨':' :: rest, index + key.length, line, column + key.length⟩ ts margin
    margins
  have hfresh : s.dropStale = .ok s := by
    have hnear : ¬1024 < key.length := Nat.not_lt.mpr hlength
    simp [s, dropStale, isStale, behindKey, resting, hnear]
  have hinside : s.unwind (s.cursor.column + 1) = s := by
    have hright : column + 1 ≤ column + key.length + 1 := by omega
    exact unwind_of_le (Nat.le_trans hmargin hright)
  have hread := readToken_colon hrest required index line column ts margin
    margins key
  exact step_of_readToken rfl hfresh hinside rfl hread

end

/-- Where a key may begin, a key with its colon is read in two steps. -/
theorem leads_key {key rest : List Char} (hkey : IsWord key)
    (hlength : key.length ≤ 1024) (hrest : wordEnds rest) {c : Cursor}
    (hc : c.rest = key ++ ':' :: rest) {margin : Nat}
    (hmargin : margin ≤ c.column + 1) (ts : List Token)
    (margins : List Nat) :
    ∃ d, d.rest = rest ∧ c.column ≤ d.column ∧
      Leads (resting true c ts margin margins)
        (behindColon key c.column d ts margin margins) := by
  obtain ⟨_, index, line, column⟩ := c
  cases hc
  let d : Cursor :=
    ⟨rest, index + key.length + 1, line, column + key.length + 1⟩
  have hcolumn : column ≤ d.column := by
    simp only [d]
    omega
  refine ⟨d, rfl, hcolumn, 2, ?_, fun fuel all hrun => ?_⟩
  · have hcount : 0 < key.length := List.length_pos_iff.mpr hkey.nonempty
    have hbehind :
        (behindColon key column d ts margin margins).cursor.rest = rest := by
      unfold behindColon
      split <;> rfl
    simp [hbehind, resting]
    omega
  · have hinside : margin ≤ column + 1 := hmargin
    exact (run_succ_of_step (step_key hkey hrest hinside ts margins) _).trans
      ((run_succ_of_step
        (step_colon hrest _ _ _ _ ts _ margins hlength hinside) fuel).trans
          hrun)

/-! ## Values -/

/-- A scanner at the end of a line takes the step that one at the first word of the next line
takes. -/
theorem step_line {indent : Nat} {rest : List Char} (hrest : BeginsWord rest)
    (index line column : Nat) (ts : List Token) (margin : Nat)
    (margins : List Nat) :
    step (resting false
        ⟨'\n' :: (List.replicate indent ' ' ++ rest), index, line, column⟩
        ts margin margins) =
      step (resting true ⟨rest, index + 1 + indent, line + 1, indent⟩ ts
        margin margins) := by
  refine step_eq_of_skipToToken ?_
  have hcursor :
      (resting true ⟨rest, index + 1 + indent, line + 1, indent⟩ ts
        margin margins).cursor =
      ⟨List.replicate 0 ' ' ++ rest, index + 1 + indent, line + 1,
        indent⟩ := rfl
  rw [skipToToken_blanks hrest hcursor]
  exact skipToToken_line hrest index line column ts margin margins _

theorem leads_line {indent : Nat} {rest : List Char} (hrest : BeginsWord rest)
    {c : Cursor} (hc : c.rest = '\n' :: (List.replicate indent ' ' ++ rest))
    (ts : List Token) (margin : Nat) (margins : List Nat) :
    ∃ d, d.rest = rest ∧ d.column = indent ∧
      Leads (resting false c ts margin margins)
        (resting true d ts margin margins) := by
  obtain ⟨_, index, line, column⟩ := c
  cases hc
  refine ⟨⟨rest, index + 1 + indent, line + 1, indent⟩, rfl, rfl,
    leads_of_step_eq (step_line hrest index line column ts margin margins) ?_⟩
  simp [resting]
  omega

/-- A word behind a colon ends where its line does. -/
theorem leads_value {w rest : List Char} (hw : IsWord w) {margin : Nat}
    (hrest : EndsLine margin rest) {c : Cursor}
    (hc : c.rest = ' ' :: (w ++ rest)) (hmargin : margin ≤ c.column + 2)
    (ts : List Token) (margins : List Nat) :
    ∃ d, d.rest = rest ∧
      Leads (resting false c ts margin margins)
        (resting false d (.scalar (String.ofList w) true :: ts) margin
          margins) := by
  obtain ⟨_, index, line, column⟩ := c
  cases hc
  let s :=
    resting false ⟨' ' :: (w ++ rest), index, line, column⟩ ts margin margins
  let t :=
    resting false ⟨w ++ rest, index + 1, line, column + 1⟩ ts margin margins
  have hcursor : s.cursor =
      ⟨List.replicate 1 ' ' ++ (w ++ rest), index, line, column⟩ := rfl
  have hmove : s.moveTo ⟨w ++ rest, index + 1, line, column + 1⟩ = t := rfl
  have hinside : t.unwind (t.cursor.column + 1) = t := unwind_of_le hmargin
  have hadd : t.addCandidate = .ok t := rfl
  have hcount : 1 + rest.length ≤ (' ' :: (w ++ rest)).length := by
    simp only [List.length_cons, List.length_append]
    omega
  refine ⟨⟨rest, index + 1 + w.length, line, column + 1 + w.length⟩, rfl,
    1, hcount, fun fuel all hrun => ?_⟩
  cases hrest with
  | document =>
      have hread := readPlain_word false margin hw .document (index + 1) line
        (column + 1)
      rw [run_succ_of_step
        (step_word hw hcursor hmove rfl hinside hadd hread) fuel]
      exact hrun
  | line hindent hrest =>
      have hread := readPlain_line hindent hw hrest (index + 1) line
        (column + 1)
      rw [run_succ_of_step
        (step_word hw hcursor hmove rfl hinside hadd hread) fuel]
      -- the word took the line end with it, so the scanner stands on the next line
      exact run_eq_whole_of_step_eq (step_line hrest _ _ _ _ _ _).symm hrun

/-! ## The ends of blocks -/

section

variable (allowed : Bool) (c : Cursor) (ts : List Token) (margin outer : Nat)
  (margins : List Nat)

theorem unwind_cons (column : Nat) :
    (resting allowed c ts margin (outer :: margins)).unwind column =
      if column < margin then
        (resting allowed c (.blockEnd :: ts) outer margins).unwind column
      else resting allowed c ts margin (outer :: margins) := rfl

/-- Blocks that end before the end of the document end there at the latest. -/
theorem unwind_zero_unwind (column : Nat) :
    ((resting allowed c ts margin margins).unwind column).unwind 0 =
      (resting allowed c ts margin margins).unwind 0 := by
  induction margins generalizing ts margin with
  | nil => rfl
  | cons outer margins ih =>
      rw [unwind_cons]
      split
      next hends =>
        have hopen : 0 < margin := by omega
        rw [ih, unwind_cons, if_pos hopen]
      · rfl

/-- Nothing but the open blocks changes where blocks end. -/
theorem exists_unwind_eq (column : Nat) :
    ∃ closed margin' margins',
      (resting allowed c ts margin margins).unwind column =
        resting allowed c closed margin' margins' := by
  induction margins generalizing ts margin with
  | nil => exact ⟨ts, margin, [], rfl⟩
  | cons outer margins ih =>
      rw [unwind_cons]
      split
      · exact ih _ _
      · exact ⟨ts, margin, outer :: margins, rfl⟩

end

/-- The step that finds the end of the document, if no candidate is stale. -/
theorem step_end {s t u : Scanner}
    (hskip : s.skipToToken (s.cursor.rest.length + 1) = s)
    (hfresh : s.dropStale = .ok s)
    (hinside : s.unwind (s.cursor.column + 1) = t) (hend : t.cursor.rest = [])
    (hdrop : (t.unwind 0).dropCandidate = .ok u) : s.step = .ok (u, true) := by
  simp only [step, hskip, hfresh, hinside, hend, hdrop, bind, Except.bind]
  rfl

/-- At the end of the document all blocks end. -/
theorem step_document (allowed : Bool) {c : Cursor} (hrest : c.rest = [])
    (ts : List Token) (margin : Nat) (margins : List Nat) :
    step (resting allowed c ts margin margins) =
      .ok ((resting allowed c ts margin margins).unwind 0, true) := by
  obtain ⟨rest, index, line, column⟩ := c
  cases hrest
  let c : Cursor := ⟨[], index, line, column⟩
  obtain ⟨closed, inner, outer, hclosed⟩ :=
    exists_unwind_eq allowed c ts margin margins (column + 1)
  obtain ⟨all, last, none, hall⟩ :=
    exists_unwind_eq allowed c closed inner outer 0
  have hend : (resting allowed c ts margin margins).unwind 0 =
      resting allowed c all last none := by
    rw [← unwind_zero_unwind allowed c ts margin margins (column + 1),
      hclosed, hall]
  have hdrop :
      ((resting allowed c closed inner outer).unwind 0).dropCandidate =
        .ok (resting allowed c all last none) := by
    rw [hall]
    rfl
  rw [hend]
  exact step_end rfl rfl hclosed rfl hdrop

/-- Scanners before a token take the same step if they do so once blocks that end there are
closed. -/
theorem step_eq_of_unwind {s t : Scanner}
    (hs : s.skipToToken (s.cursor.rest.length + 1) = s)
    (hsfresh : s.dropStale = .ok s)
    (ht : t.skipToToken (t.cursor.rest.length + 1) = t)
    (htfresh : t.dropStale = .ok t)
    (hclose :
      s.unwind (s.cursor.column + 1) = t.unwind (t.cursor.column + 1)) :
    s.step = t.step := by
  simp only [step, hs, hsfresh, ht, htfresh, hclose, bind, Except.bind]

/-- Where the next line begins left of a block, or none does, the block ends. -/
theorem step_close {column : Nat} {c : Cursor} (hrest : EndsLine column c.rest)
    (ts : List Token) (outer : Nat) (margins : List Nat) :
    step (resting false c ts (column + 1) (outer :: margins)) =
      step (resting false c (.blockEnd :: ts) outer margins) := by
  obtain ⟨rest, index, line, place⟩ := c
  cases hrest with
  | document =>
      have hopen : 0 < column + 1 := Nat.succ_pos column
      rw [step_document false rfl, step_document false rfl, unwind_cons,
        if_pos hopen]
  | @line indent hindent rest hrest =>
      let c : Cursor := ⟨rest, index + 1 + indent, line + 1, indent⟩
      have hskip (ts : List Token) (margin : Nat) (margins : List Nat) :
          skipToToken (rest.length + 1)
              (resting true c ts margin margins) =
            resting true c ts margin margins := by
        have hcursor : (resting true c ts margin margins).cursor =
            ⟨List.replicate 0 ' ' ++ rest, index + 1 + indent, line + 1,
              indent⟩ := rfl
        exact skipToToken_blanks hrest hcursor _
      have hends : indent + 1 < column + 1 := by omega
      have hclose :
          (resting true c ts (column + 1) (outer :: margins)).unwind
              (indent + 1) =
            (resting true c (.blockEnd :: ts) outer margins).unwind
              (indent + 1) := if_pos hends
      rw [step_line hrest, step_line hrest]
      exact step_eq_of_unwind (hskip _ _ _) rfl (hskip _ _ _) rfl hclose

theorem leads_close {column : Nat} {c : Cursor}
    (hrest : EndsLine column c.rest) (ts : List Token) (outer : Nat)
    (margins : List Nat) :
    Leads (resting false c ts (column + 1) (outer :: margins))
      (resting false c (.blockEnd :: ts) outer margins) :=
  leads_of_step_eq (step_close hrest ts outer margins) (Nat.le_refl _)

/-- A line end behind the last line says nothing. -/
theorem run_ending {c : Cursor} (hrest : c.rest = [] ∨ c.rest = ['\n'])
    (ts : List Token) (fuel : Nat) :
    run (fuel + 1) (resting false c ts 1 [0]) =
      .whole (Token.blockEnd :: ts).reverse := by
  rcases hrest with hrest | hrest
  · exact run_succ_of_end (step_document false hrest ts 1 [0]) fuel
  · obtain ⟨_, index, line, column⟩ := c
    cases hrest
    have hline := @step_line 0 [] .document index line column ts 1 [0]
    exact run_succ_of_end (hline.trans (step_document true rfl ts 1 [0])) fuel

end Scanner

end TokenSplit.Yaml
