import TokenSplit.CommandLine.Program
import TokenSplit.Proofs.Console.Markup
import TokenSplit.Proofs.Console.Wrap
import TokenSplit.Proofs.Result

/-!
# The messages of faults on the screen

A failure is a label with markup of its own and the message of the fault, and the message is read
as markup with it.  A verbatim message is shown in full behind the label; of any other message a
bracket or a backslash is lost, or showing it breaks the command off.
-/

namespace TokenSplit

/-! ## The label and the message -/

namespace Console.Markup

theorem pieces_label (fuel : Nat) (s : List Char) :
    pieces (fuel + 9) ("[red]Error:[/] ".toList ++ s) =
      [.text [], .tag "red".toList none, .text ['E'], .text ['r'], .text ['r'],
        .text ['o'], .text ['r'], .text [':'], .text [], .tag ['/'] none,
        .text [' ']] ++ pieces fuel s := by
  have hname : opensTag 'r' := by decide
  have hclose : opensTag '/' := by decide
  simp [pieces, inside?, tagOf, hname, hclose]

theorem shown_label (fuel : Nat) (s : List Char) :
    shown [] (pieces (fuel + 9) ("[red]Error:[/] ".toList ++ s)) =
      (shown [] (pieces fuel s)).map ("Error: ".toList ++ ·) := by
  rw [pieces_label]
  simp [shown, handlerReads, Text.trim, Text.trimEnd, Function.comp_def]

/-- Whatever the message, the label before it is shown without its markup. -/
theorem plain?_label (s : List Char) :
    plain? ("[red]Error:[/] ".toList ++ s) =
      (shown [] (pieces (s.length + 7) s)).map fun t =>
        "Error: ".toList ++ t.filter fun c => !isControl c := by
  have hfuel : ("[red]Error:[/] ".toList ++ s).length + 1 =
      s.length + 7 + 9 := by simp
  rw [plain?, hfuel, shown_label, Option.map_map]
  rfl

theorem not_mark_of_isBlank {c : Char} (hc : Text.isBlank c) :
    (c == '[' || c == '\\') = false := by
  rw [Bool.or_eq_false_iff]
  constructor
  · rw [beq_eq_false_iff_ne]
    rintro rfl
    exact absurd hc (by decide)
  · rw [beq_eq_false_iff_ne]
    rintro rfl
    exact absurd hc (by decide)

/-- Wrapping keeps all brackets and backslashes. -/
theorem marks_wrap {cells : Nat} (hcells : 2 ≤ cells) (s : List Char) :
    marks (wrap cells s).flatten = marks s := by
  have hlines := (carries_wrap hcells s).countP_eq fun _ => not_mark_of_isBlank
  have htabs := countP_untabbed (fun _ => not_mark_of_isBlank) s
  exact hlines.trans htabs

end Console.Markup

namespace CommandLine

open Console (Carries screenWidth wrap)
open Console.Markup (Verbatim isControl marks pieces)

/-! ## The message of a fault -/

/-- A text has no tabs and nothing that only steers a terminal. -/
def Steady (s : List Char) : Prop :=
  '\t' ∉ s ∧ s.all fun c => !isControl c

/-- The lines of a message behind the label. -/
def messageLines (message : List Char) : Except Breakage (List (List Char)) :=
  Piece.textLines .markup
    (Console.Markup.plain? ("[red]Error:[/] ".toList ++ message))

theorem lines_fault (now : Moment) (fault : Fault) :
    (Piece.fault fault).lines now = messageLines fault.message.toList := rfl

theorem exists_messageLines_of_verbatim {message : List Char}
    (hverbatim : Verbatim message) (hsteady : Steady message) :
    ∃ lines,
      messageLines message = .ok lines ∧
      Carries lines ("Error: ".toList ++ message) := by
  have hfuel : message.length < message.length + 7 := by omega
  have hshown := Console.Markup.shown_of_verbatim hfuel [] hverbatim
  have hkept : (message.filter fun c => !isControl c) = message := by
    rw [List.filter_eq_self]
    exact List.all_eq_true.mp hsteady.2
  have hplain := Console.Markup.plain?_label message
  rw [hshown, Option.map_some, hkept] at hplain
  have htab : '\t' ∉ "Error: ".toList ++ message := by
    rw [List.mem_append, not_or]
    exact ⟨by decide, hsteady.1⟩
  refine ⟨wrap screenWidth ("Error: ".toList ++ message), ?_, ?_⟩
  · rw [messageLines, hplain]
    rfl
  · have hcells : 2 ≤ screenWidth := by decide
    have h := Console.carries_wrap hcells ("Error: ".toList ++ message)
    rw [Console.untabbed_of_not_mem htab] at h
    exact h

/-- Lines that end with a message show all its marks, so that none of them was
lost. -/
theorem verbatim_of_carries {message : List Char}
    {lines front back : List (List Char)}
    (hlines : messageLines message = .ok lines) (hsplit : lines = front ++ back)
    (hcarries : Carries back ("Error: ".toList ++ message)) :
    Verbatim message := by
  rw [messageLines, Console.Markup.plain?_label] at hlines
  cases hshown : Console.Markup.shown []
      (pieces (message.length + 7) message) with
  | none =>
      rw [hshown] at hlines
      cases hlines
  | some t =>
      rw [hshown] at hlines
      cases hlines
      have hlabel : marks "Error: ".toList = 0 := by decide
      have hback : marks back.flatten = marks message := by
        have h := hcarries.countP_eq fun _ =>
          Console.Markup.not_mark_of_isBlank
        have happend := Console.Markup.marks_append "Error: ".toList message
        exact h.trans (by rw [← marks]; omega)
      have hcells : 2 ≤ screenWidth := by decide
      have hwhole := Console.Markup.marks_wrap hcells
        ("Error: ".toList ++ t.filter fun c => !isControl c)
      rw [hsplit, List.flatten_append] at hwhole
      simp only [Console.Markup.marks_append] at hwhole
      have hfilter : marks (t.filter fun c => !isControl c) ≤ marks t :=
        List.filter_sublist.countP_le
      have hmarks := (Console.Markup.marks_shown (by omega) hshown).2
      refine Classical.byContradiction fun hnot => ?_
      have hfewer := hmarks hnot
      omega

/-! ## The transcript of a failure -/

namespace Transcript

/-- The command ends with code one, and the last of its lines carry the label
and the message of a fault. -/
structure Reports (t : Transcript) (fault : Fault) : Prop where
  exitCode : t.exitCode = 1
  unbroken : t.breakage = none
  ending : ∃ front back,
    t.lines = front ++ back ∧
    Carries back ("Error: ".toList ++ fault.message.toList)

end Transcript

/-- All pieces are records. -/
def AreRecords (pieces : List Piece) : Prop :=
  ∀ piece ∈ pieces, ∃ event timed, piece = .record event timed

theorem areRecords_nil : AreRecords [] := by
  intro piece hpiece
  cases hpiece

theorem Recording.areRecords_record {recording after : Recording}
    {events : List Event} {records : List Piece}
    (h : recording.record events = .ok (records, after)) :
    AreRecords records := by
  induction events generalizing recording records after with
  | nil =>
      cases h
      exact areRecords_nil
  | cons event events ih =>
      cases recording with
      | off =>
          cases h
          exact areRecords_nil
      | untimed | timed =>
          simp only [record] at h
          split at h
          · cases h
          obtain ⟨⟨more, last⟩, hmore, h⟩ := bind_eq_ok_iff.mp h
          cases h
          intro piece hpiece
          rcases List.mem_cons.mp hpiece with rfl | hpiece
          · exact ⟨event, _, rfl⟩
          · exact ih hmore piece hpiece

/-- Records are always shown, and they are shown first. -/
theorem piecesLines_append (now : Moment) {records : List Piece}
    (hrecords : AreRecords records) (rest : List Piece) :
    piecesLines now (records ++ rest) =
      ((piecesLines now records).1 ++ (piecesLines now rest).1,
        (piecesLines now rest).2) := by
  induction records with
  | nil => rfl
  | cons piece records ih =>
      obtain ⟨event, timed, rfl⟩ := hrecords piece List.mem_cons_self
      have hrest := ih fun p hp => hrecords p (List.mem_cons_of_mem _ hp)
      obtain ⟨lines, hlines⟩ :
          ∃ lines, (Piece.record event timed).lines now = .ok lines := ⟨_, rfl⟩
      simp only [List.cons_append, piecesLines, hlines, hrest,
        List.append_assoc]

namespace Report

variable (now : Moment) {fault : Fault} {records : List Piece}

theorem exists_transcript_failure (fault : Fault)
    (hrecords : AreRecords records) :
    ∃ front, (records = [] → front = []) ∧
      (∀ lines, messageLines fault.message.toList = .ok lines →
        (failure records fault).transcript now = ⟨front ++ lines, 1, none⟩) ∧
      ∀ breakage, messageLines fault.message.toList = .error breakage →
        (failure records fault).transcript now =
          ⟨front, 1, some breakage⟩ := by
  have happend := piecesLines_append now hrecords [.fault fault]
  have hfault := lines_fault now fault
  refine ⟨(piecesLines now records).1, ?_, ?_, ?_⟩
  · rintro rfl
    rfl
  · intro lines hlines
    rw [hlines] at hfault
    simp only [transcript, failure, happend, piecesLines, hfault]
    simp
  · intro breakage hlines
    rw [hlines] at hfault
    simp only [transcript, failure, happend, piecesLines, hfault]
    simp

theorem reports_of_verbatim (hrecords : AreRecords records)
    (hverbatim : Verbatim fault.message.toList)
    (hsteady : Steady fault.message.toList) :
    ((failure records fault).transcript now).Reports fault := by
  obtain ⟨lines, hlines, hcarries⟩ :=
    exists_messageLines_of_verbatim hverbatim hsteady
  obtain ⟨front, -, htranscript, -⟩ :=
    exists_transcript_failure now fault hrecords
  rw [htranscript lines hlines]
  exact ⟨rfl, rfl, front, lines, rfl, hcarries⟩

theorem verbatim_of_reports
    (h : ((failure [] fault).transcript now).Reports fault) :
    Verbatim fault.message.toList := by
  obtain ⟨front, hfront, hshown, hbroken⟩ :=
    exists_transcript_failure now fault areRecords_nil
  cases hlines : messageLines fault.message.toList with
  | error breakage =>
      have hunbroken := h.unbroken
      rw [hbroken breakage hlines] at hunbroken
      cases hunbroken
  | ok lines =>
      obtain ⟨earlier, back, hsplit, hcarries⟩ := h.ending
      rw [hshown lines hlines, hfront rfl] at hsplit
      exact verbatim_of_carries hlines hsplit hcarries

end Report

end CommandLine

end TokenSplit
