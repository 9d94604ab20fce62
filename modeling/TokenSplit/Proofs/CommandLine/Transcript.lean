import TokenSplit.CommandLine.Program
import TokenSplit.Proofs.Console.Wrap
import TokenSplit.Proofs.Json.RoundTrip
import TokenSplit.Proofs.Usage

/-!
# What a transcript reads as

The whole of what a run writes is one text, every line of it with a line end.  A line that holds
a document reads as that document.  A recorded event begins with the time in brackets, or with
blanks and the level, and no document begins like that.
-/

namespace TokenSplit

namespace Console

/-- A record has a first line, which begins with the time and the level. -/
theorem exists_recordLines_eq_cons (time : Option (List Char))
    (level text : List Char) :
    ∃ tail rest,
      recordLines time level text =
        (pad timeWidth (time.getD []) ++ pad levelWidth level ++ tail) ::
          rest := by
  obtain ⟨first, rest, hwrap⟩ :=
    List.exists_cons_of_ne_nil (wrap_ne_nil textWidth text)
  refine ⟨pad textWidth first, (rest.map (pad textWidth)).map
    (List.replicate (timeWidth + levelWidth) ' ' ++ ·), ?_⟩
  simp only [recordLines, hwrap, List.map_cons]

end Console

namespace Json

theorem parse?_of_readValue_eq_none {s : List Char}
    (hread : ∀ fuel, readValue fuel s = none) : parse? s = none := by
  simp [parse?, hread]

theorem readDigits_eq_some {s rest : List Char} {n : Nat}
    (hread : readDigits s = some (n, rest)) :
    rest = s.dropWhile Char.isDigit := by
  simp only [readDigits] at hread
  split at hread
  · simp at hread
  · simp at hread
  · simp only [Option.some.injEq, Prod.mk.injEq] at hread
    exact hread.2.symm

/-- Two digits and a slash are no items of a list. -/
theorem readItems_slash {a b : Char} (ha : a.isDigit) (hb : b.isDigit)
    (fuel : Nat) (s : List Char) :
    readItems fuel (a :: b :: '/' :: s) = none := by
  have hslash : Char.isDigit '/' = false := by decide
  cases fuel with
  | zero => rfl
  | succ fuel =>
      cases fuel with
      | zero => rfl
      | succ fuel =>
          rw [readItems, readValue_of_isDigit ha]
          cases hread : readDigits (a :: b :: '/' :: s) with
          | none => rfl
          | some read =>
              have hrest : read.2 = '/' :: s := by
                rw [readDigits_eq_some hread]
                simp [ha, hb, hslash]
              simp [hrest, skip, isGap]

/-- No document begins with a bracket and the month of a day. -/
theorem parse?_stamp {a b : Char} (ha : a.isDigit) (hb : b.isDigit)
    (s : List Char) : parse? ('[' :: a :: b :: '/' :: s) = none := by
  apply parse?_of_readValue_eq_none
  intro fuel
  cases fuel with
  | zero => rfl
  | succ fuel =>
      have hbracket : isGap '[' = false := by decide
      have hclose : a ≠ ']' := ne_of_isDigit ha (by decide)
      simp [readValue, skip_cons hbracket, skip_cons (not_isGap_of_isDigit ha),
        hclose, readItems_slash ha hb]

theorem skip_replicate (n : Nat) (s : List Char) :
    skip (List.replicate n ' ' ++ s) = skip s := by
  induction n with
  | zero => rfl
  | succ n ih => rw [List.replicate_succ, List.cons_append, skip_blank, ih]

/-- No document begins with the name of a level. -/
theorem parse?_level (n : Nat) (s : List Char) :
    parse? (List.replicate n ' ' ++ Level.debug.name.toList ++ s) = none := by
  apply parse?_of_readValue_eq_none
  intro fuel
  cases fuel with
  | zero => rfl
  | succ fuel =>
      have hname : Level.debug.name.toList = ['D', 'E', 'B', 'U', 'G'] := rfl
      have hgap : isGap 'D' = false := by decide
      have hdigit : Char.isDigit 'D' = false := by decide
      rw [List.append_assoc, readValue, skip_replicate, hname]
      simp [skip_cons hgap, readDigits, hdigit]

end Json

namespace CommandLine

namespace Transcript

/-- All that a run writes, with a line end behind every line. -/
def text (t : Transcript) : List Char :=
  t.lines.flatMap (· ++ ['\n'])

/-- All that a run writes is one document, and the document shows a usage. -/
def Shows (t : Transcript) (usage : Usage) : Prop :=
  (Json.parse? t.text).bind Usage.ofDocument? = some usage

end Transcript

/-- A line with the document of a usage of integers shows that usage, with gaps behind it or
without. -/
theorem ofDocument?_line (fields : List (String × Int)) {gap : List Char}
    (hgap : gap.all Json.isGap) :
    (Json.parse? ((Usage.ofIntegers fields).document.print ++ gap)).bind
        Usage.ofDocument? =
      some (Usage.ofIntegers fields) := by
  rw [Json.parse?_print _ hgap, Option.bind_some]
  exact Usage.ofDocument?_document fields

theorem Transcript.shows_of_lines {t : Transcript}
    {fields : List (String × Int)}
    (hlines : t.lines = [(Usage.ofIntegers fields).document.print]) :
    t.Shows (Usage.ofIntegers fields) := by
  have hgap : ['\n'].all Json.isGap := by decide
  rw [Shows, text, hlines, List.flatMap_singleton]
  exact ofDocument?_line fields hgap

/-- The lines of a record, and whatever comes after them, are no document. -/
theorem Piece.exists_lines_record (now : Moment) {event : Event}
    (hevent : event.level = .debug) (timed : Bool) :
    ∃ lines,
      (Piece.record event timed).lines now = .ok lines ∧
      ∀ later,
        Json.parse? ((lines ++ later).flatMap (· ++ ['\n'])) = none := by
  obtain ⟨tail, rest, hlines⟩ := Console.exists_recordLines_eq_cons
    (if timed then some (Console.stamp now) else none) event.level.name.toList
    (event.text?.getD "").toList
  refine ⟨_, rfl, ?_⟩
  intro later
  rw [hlines]
  cases timed with
  | false =>
      simpa [hevent, Console.pad] using Json.parse?_level _ _
  | true =>
      have hdigit (n : Nat) : (n % 10).digitChar.isDigit := by
        rw [Nat.isDigit_digitChar]
        exact decide_eq_true (Nat.mod_lt n (by decide))
      simpa [Console.pad, Console.stamp, Console.twoDigits] using
        Json.parse?_stamp (hdigit (now.date.month / 10))
          (hdigit now.date.month) _

namespace Report

theorem transcript_failure (now : Moment) (pieces : List Piece)
    (fault : Fault) : ((failure pieces fault).transcript now).exitCode = 1 := by
  unfold transcript
  split
  · rfl
  · rfl

theorem transcript_document (now : Moment) (usage : Usage) :
    Report.transcript now ⟨[.document usage], false⟩ =
      ⟨[usage.document.print], 0, none⟩ := rfl

/-- Behind a record the document is still the last line. -/
theorem transcript_record (now : Moment) {event : Event} {timed : Bool}
    {lines : List (List Char)}
    (hlines : (Piece.record event timed).lines now = .ok lines)
    (usage : Usage) :
    Report.transcript now ⟨[.record event timed, .document usage], false⟩ =
      ⟨lines ++ [usage.document.print], 0, none⟩ := by
  simp only [transcript, piecesLines, hlines]
  rfl

end Report

end CommandLine

end TokenSplit
