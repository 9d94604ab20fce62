import Mathlib.Data.List.TakeWhile
import TokenSplit.Proofs.Text.Ascii
import TokenSplit.Yaml.Tag
import TokenSplit.Yaml.Token.Scan

/-!
# Words in documents

Letters, digits and underscores mean nothing but themselves in a document, so a word of them is
cut as one plain text, wherever it stands.  It may be a flag or an integer by its form, but never
a number with a point.
-/

namespace TokenSplit.Yaml

/-- Whether a character may stand anywhere in a word. -/
def isWordChar (c : Char) : Bool :=
  c.isAlphanum || c == '_'

/-- A text of characters of words, and of at least one. -/
structure IsWord (w : List Char) : Prop where
  nonempty : w ≠ []
  chars : ∀ c ∈ w, isWordChar c

theorem isWord_iff {w : List Char} :
    IsWord w ↔ w ≠ [] ∧ w.all isWordChar := by
  constructor
  · intro hw
    exact ⟨hw.nonempty, List.all_eq_true.mpr hw.chars⟩
  · rintro ⟨hnonempty, hchars⟩
    exact ⟨hnonempty, List.all_eq_true.mp hchars⟩

instance (w : List Char) : Decidable (IsWord w) :=
  decidable_of_iff' _ isWord_iff

/-! ## Characters of words -/

theorem lt_of_isWordChar {c : Char} (hc : isWordChar c) : c.toNat < 128 := by
  simp only [isWordChar, Bool.or_eq_true, beq_iff_eq] at hc
  rcases hc with halphanum | rfl
  · delta Char.isAlphanum Char.isAlpha Char.isUpper Char.isLower Char.isDigit
      at halphanum
    simp only [Bool.or_eq_true, Bool.and_eq_true, decide_eq_true_eq,
      UInt32.le_iff_toNat_le, ge_iff_le] at halphanum
    have hcode : c.toNat = c.val.toNat := rfl
    have hZ : 'Z'.val.toNat = 90 := rfl
    have hz : 'z'.val.toNat = 122 := rfl
    have h9 : '9'.val.toNat = 57 := rfl
    omega
  · decide

theorem forall_wordChar {p : Char → Prop}
    (hp : ∀ n < 128, isWordChar (Char.ofNat n) → p (Char.ofNat n))
    {c : Char} (hc : isWordChar c) : p c :=
  Text.forall_ascii (p := fun c => isWordChar c → p c) hp
    (lt_of_isWordChar hc) hc

/-- The characters that mean something to the reader of a document. -/
def marks : List Char :=
  [' ', '\n', '\r', byteOrderMark, '%', '-', '.', '[', '{', ']', '}', ',', '?',
    ':', '*', '&', '!', '|', '>', '\'', '"', '#']

theorem not_mem_marks {c : Char} (hc : isWordChar c) : c ∉ marks :=
  forall_wordChar (p := fun c => c ∉ marks) (by decide +kernel) hc

theorem ne_of_mem_marks {c mark : Char} (hc : isWordChar c)
    (hmark : mark ∈ marks) : c ≠ mark := by
  rintro rfl
  exact not_mem_marks hc hmark

theorem isBreak_eq_false {c : Char} (hc : isWordChar c) : isBreak c = false :=
  forall_wordChar (p := fun c => isBreak c = false) (by decide +kernel) hc

theorem wordEnds_eq_false {c : Char} (hc : isWordChar c) (rest : List Char) :
    wordEnds (c :: rest) = false :=
  forall_wordChar (p := fun c => (c == ' ' || c == '\t' || isBreak c) = false)
    (by decide +kernel) hc

/-! ## Tags of words -/

theorem ofPlain_of_isWord {w : List Char} (hw : IsWord w) :
    Tag.ofPlain w = Tag.ofLine w := by
  unfold Tag.ofPlain
  split
  next hreverse =>
    have hmem : '\n' ∈ w := by
      rw [← List.mem_reverse, hreverse]
      exact List.mem_cons_self
    exact absurd (hw.chars _ hmem) (by decide)
  · rfl

theorem unsigned_of_isWord {w : List Char} (hw : IsWord w) :
    Form.unsigned w = w := by
  unfold Form.unsigned
  split
  · exact absurd (hw.chars _ List.mem_cons_self) (by decide)
  · exact absurd (hw.chars _ List.mem_cons_self) (by decide)
  · rfl

theorem isFloat_eq_false_of_isWord {w : List Char} (hw : IsWord w) :
    Form.isFloat w = false := by
  have hpoint : ∀ c ∈ w, (c != '.') = true := by
    intro c hc
    exact bne_iff_ne.mpr (ne_of_mem_marks (hw.chars c hc) (by decide))
  have htaken := List.takeWhile_eq_self_iff.mpr hpoint
  simp only [Form.isFloat, unsigned_of_isWord hw, htaken, if_true]

/-! ## Cutting words -/

namespace Cursor

theorem advance_append {front : List Char}
    (hfront : ∀ c ∈ front, isBreak c = false ∧ c ≠ byteOrderMark)
    (rest : List Char) (index line column : Nat) :
    advance front.length ⟨front ++ rest, index, line, column⟩ =
      ⟨rest, index + front.length, line, column + front.length⟩ := by
  induction front generalizing index column with
  | nil => rfl
  | cons c front ih =>
      obtain ⟨hbreak, hmark⟩ := hfront c List.mem_cons_self
      have hnext : next ⟨c :: front ++ rest, index, line, column⟩ =
          ⟨front ++ rest, index + 1, line, column + 1⟩ := by
        simp [next, hbreak, hmark]
      have hfront := ih (fun d hd => hfront d (List.mem_cons_of_mem c hd))
        (index + 1) (column + 1)
      rw [List.length_cons, advance, hnext, hfront]
      congr 1 <;> omega

theorem advance_word {w : List Char} (hw : IsWord w) (rest : List Char)
    (index line column : Nat) :
    advance w.length ⟨w ++ rest, index, line, column⟩ =
      ⟨rest, index + w.length, line, column + w.length⟩ := by
  refine advance_append ?_ rest index line column
  intro c hc
  have hword := hw.chars c hc
  exact ⟨isBreak_eq_false hword, ne_of_mem_marks hword (by decide)⟩

end Cursor

theorem plainRun_append (inFlow : Bool) {w : List Char}
    (hw : ∀ c ∈ w, isWordChar c) (rest : List Char) :
    plainRun inFlow (w ++ rest) = w ++ plainRun inFlow rest := by
  induction w with
  | nil => rfl
  | cons c w ih =>
      have hc : isWordChar c := hw c List.mem_cons_self
      have hcolon : c ≠ ':' := ne_of_mem_marks hc (by decide)
      have hflow : isFlowMark c = false ∧ c ≠ '?' :=
        forall_wordChar (p := fun c => isFlowMark c = false ∧ c ≠ '?')
          (by decide +kernel) hc
      have hrest := ih fun d hd => hw d (List.mem_cons_of_mem c hd)
      simp [plainRun, wordEnds_eq_false hc, hcolon, hflow, hrest]

/-- What ends a plain text without a gap after it: the end of the document, or the colon behind a
key. -/
inductive EndsText : List Char → Prop where
  | document : EndsText []
  | key {rest : List Char} (hrest : wordEnds rest) : EndsText (':' :: rest)

theorem EndsText.plainRun_eq_nil {rest : List Char} (hrest : EndsText rest)
    (inFlow : Bool) : plainRun inFlow rest = [] := by
  cases hrest with
  | document => rfl
  | @key rest hrest =>
      have hcolon : wordEnds (':' :: rest) = false := rfl
      have hvalue : valueFollows inFlow rest := by
        cases rest with
        | nil => rfl
        | cons c rest => simp [valueFollows, hrest]
      simp [plainRun, hcolon, hvalue]

theorem EndsText.plainGap_eq {rest : List Char} (hrest : EndsText rest)
    (index line column : Nat) :
    plainGap ⟨rest, index, line, column⟩ =
      ([], false, ⟨rest, index, line, column⟩) := by
  cases hrest with
  | document => rfl
  | key hrest => rfl

/-- A word is read as a plain text up to its end. -/
theorem readPlain_word (inFlow : Bool) (margin : Nat) {w rest : List Char}
    (hw : IsWord w) (hrest : EndsText rest) (index line column : Nat) :
    readPlain inFlow margin ⟨w ++ rest, index, line, column⟩ =
      ⟨w, false, ⟨rest, index + w.length, line, column + w.length⟩⟩ := by
  have hrun : plainRun inFlow (w ++ rest) = w := by
    rw [plainRun_append inFlow hw.chars, hrest.plainRun_eq_nil,
      List.append_nil]
  have hcomment : w.head? ≠ some '#' := by
    intro hhead
    have hmem := List.mem_of_head? hhead
    exact not_mem_marks (hw.chars _ hmem) (by decide)
  simp [readPlain, readPlainFrom, Cursor.peek?, hrun, hcomment, hw.nonempty,
    Cursor.advance_word hw, hrest.plainGap_eq]

/-! ## Scanning words -/

/-- What may stand behind blanks: a word, or nothing at the end of the document. -/
inductive BeginsWord : List Char → Prop where
  | document : BeginsWord []
  | word {c : Char} (hc : isWordChar c) (rest : List Char) :
      BeginsWord (c :: rest)

theorem IsWord.begins_append {w : List Char} (hw : IsWord w)
    (rest : List Char) : BeginsWord (w ++ rest) := by
  cases w with
  | nil => exact absurd rfl hw.nonempty
  | cons c w => exact .word (hw.chars c List.mem_cons_self) (w ++ rest)

namespace BeginsWord

variable {rest : List Char} (hrest : BeginsWord rest)

include hrest

theorem head?_ne {mark : Char} (hmark : mark ∈ marks) :
    rest.head? ≠ some mark := by
  cases hrest with
  | document => nofun
  | word hc rest =>
      intro hhead
      exact ne_of_mem_marks hc hmark (Option.some.inj hhead)

/-- Blanks before a word are stepped over. -/
theorem skipBlanks_eq (blanks index line column : Nat) :
    Cursor.skipBlanks
        ⟨List.replicate blanks ' ' ++ rest, index, line, column⟩ =
      ⟨rest, index + blanks, line, column + blanks⟩ := by
  have hblank : rest.takeWhile (· == ' ') = [] := by
    cases hrest with
    | document => rfl
    | @word c hc rest =>
        have hblank : c ≠ ' ' := ne_of_mem_marks hc (by decide)
        simp [hblank]
  have hfront : ∀ d ∈ List.replicate blanks ' ', (d == ' ') = true := by
    intro d hd
    rw [List.eq_of_mem_replicate hd]
    rfl
  have htaken : (List.replicate blanks ' ' ++ rest).takeWhile (· == ' ') =
      List.replicate blanks ' ' := by
    rw [List.takeWhile_append_of_pos hfront, hblank, List.append_nil]
  have hplain : ∀ d ∈ List.replicate blanks ' ',
      isBreak d = false ∧ d ≠ byteOrderMark := by
    intro d hd
    rw [List.eq_of_mem_replicate hd]
    decide
  have hadvance := Cursor.advance_append hplain rest index line column
  rw [List.length_replicate] at hadvance
  rw [Cursor.skipBlanks, Cursor.skipWhile, htaken, List.length_replicate,
    hadvance]

theorem skipComment_eq (index line column : Nat) :
    Cursor.skipComment ⟨rest, index, line, column⟩ =
      ⟨rest, index, line, column⟩ :=
  if_neg (hrest.head?_ne (by decide))

theorem lineBreak_eq (index line column : Nat) :
    Cursor.lineBreak ⟨rest, index, line, column⟩ =
      ([], ⟨rest, index, line, column⟩) := by
  cases hrest with
  | document => rfl
  | word hc rest => simp [Cursor.lineBreak, isBreak_eq_false hc]

end BeginsWord

namespace Cursor

theorem atMark_eq_false {c : Cursor} {x mark : Char} {rest : List Char}
    (hrest : c.rest = x :: rest) (hx : x ≠ mark) : c.atMark mark = false := by
  unfold atMark
  split
  next y _ _ _ hmark =>
    rw [hrest] at hmark
    cases hmark
    simp [hx]
  · rfl

end Cursor

namespace Scanner

/-- The same scanner at another place. -/
def moveTo (c : Cursor) (s : Scanner) : Scanner :=
  { s with cursor := c }

theorem skipToToken_blanks {s : Scanner} {rest : List Char}
    (hrest : BeginsWord rest) {blanks index line column : Nat}
    (hcursor : s.cursor =
      ⟨List.replicate blanks ' ' ++ rest, index, line, column⟩) (fuel : Nat) :
    s.skipToToken (fuel + 1) =
      s.moveTo ⟨rest, index + blanks, line, column + blanks⟩ := by
  simp only [skipToToken, hcursor, hrest.skipBlanks_eq, hrest.skipComment_eq,
    hrest.lineBreak_eq, moveTo]

/-- A word is read as nothing but a plain text. -/
theorem readToken_word (s : Scanner) {c : Char} (hc : isWordChar c)
    {rest : List Char} (hcursor : s.cursor.rest = c :: rest) :
    s.readToken c rest = s.pushPlain := by
  have hplain : plainBegins s.inFlow (c :: rest) := by
    have hindicator : isIndicator c = false :=
      forall_wordChar (p := fun c => isIndicator c = false)
        (by decide +kernel) hc
    simp [plainBegins, wordEnds_eq_false hc, hindicator]
  have hmarks := not_mem_marks hc
  simp only [marks, List.mem_cons, not_or] at hmarks
  simp [readToken, Cursor.atMark_eq_false hcursor, hplain, hmarks]

theorem pushPlain_of_readPlain {s t : Scanner} {plain : PlainText}
    (hadd : s.addCandidate = .ok t)
    (hread : readPlain t.inFlow t.margin t.cursor = plain) :
    s.pushPlain =
      .ok { t.push (.scalar (String.ofList plain.text) true) with
        cursor := plain.after
        keyAllowed := plain.keyAllowed } := by
  simp only [pushPlain, hadd, hread, bind, Except.bind]
  rfl

/-- The step that cuts a token, if no candidate is stale and no block ends before it. -/
theorem step_of_readToken {s t u : Scanner} {c : Char} {rest : List Char}
    (hskip : s.skipToToken (s.cursor.rest.length + 1) = t)
    (hfresh : t.dropStale = .ok t)
    (hinside : t.unwind (t.cursor.column + 1) = t)
    (hbegin : t.cursor.rest = c :: rest) (hread : t.readToken c rest = .ok u) :
    s.step = .ok (u, false) := by
  simp only [step, hskip, hfresh, hinside, hbegin, hread, bind, Except.bind]
  rfl

/-- The step that cuts a word, if no candidate is stale and no block ends before it. -/
theorem step_word {s t u : Scanner} {w rest : List Char} (hw : IsWord w)
    {blanks index line column : Nat}
    (hcursor : s.cursor =
      ⟨List.replicate blanks ' ' ++ (w ++ rest), index, line, column⟩)
    (ht : s.moveTo ⟨w ++ rest, index + blanks, line, column + blanks⟩ = t)
    (hfresh : t.dropStale = .ok t)
    (hinside : t.unwind (t.cursor.column + 1) = t)
    (hadd : t.addCandidate = .ok u) {plain : PlainText}
    (hread : readPlain u.inFlow u.margin u.cursor = plain) :
    s.step =
      .ok ({ u.push (.scalar (String.ofList plain.text) true) with
        cursor := plain.after
        keyAllowed := plain.keyAllowed }, false) := by
  have hplace : t.cursor =
      ⟨w ++ rest, index + blanks, line, column + blanks⟩ := by
    rw [← ht]
    rfl
  have hpush := pushPlain_of_readPlain hadd hread
  cases w with
  | nil => exact absurd rfl hw.nonempty
  | cons c w =>
      have hc : isWordChar c := hw.chars c List.mem_cons_self
      have hbegin : t.cursor.rest = c :: (w ++ rest) := by
        rw [hplace]
        rfl
      rw [← t.readToken_word hc hbegin] at hpush
      have hskip : s.skipToToken (s.cursor.rest.length + 1) = t :=
        (skipToToken_blanks (hw.begins_append rest) hcursor _).trans ht
      exact step_of_readToken hskip hfresh hinside hbegin hpush

end Scanner

end TokenSplit.Yaml
