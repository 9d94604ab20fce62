import TokenSplit.Proofs.CommandLine.Verbose
import TokenSplit.Proofs.Config.Schema
import TokenSplit.Proofs.Usage.Cache

/-!
# The note on the threshold

Behind the table of a split stands a note that the count is below the threshold.  It is shown where
the split holds no cache tokens, and a split below the threshold holds none.  But neither does the
split of no token, nor any split by a ratio without a part for the cache, so the note may be shown
where the threshold is reached.  No other line of a run can be taken for the note.
-/

namespace TokenSplit

/-! ## Lines that are not the note -/

namespace Console

theorem head?_replicate_append (n : Nat) (c : Char) (s : List Char) :
    (List.replicate n c ++ s).head? = some c ∨
      (List.replicate n c ++ s).head? = s.head? := by
  cases n with
  | zero => exact .inr rfl
  | succ n => exact .inl rfl

theorem Table.head?_titleLine (t : Table) :
    t.titleLine.head? = some ' ' ∨
      ∃ s, t.titleLine.head? = (t.title ++ s).head? := by
  simp only [titleLine, List.append_assoc]
  rcases head?_replicate_append _ ' ' _ with hblank | htitle
  · exact .inl hblank
  · exact .inr ⟨_, htitle⟩

/-- A table begins with its title, and all of its other lines begin with a piece of the box. -/
theorem Table.head?_of_mem_render (t : Table) {line : List Char}
    (hline : line ∈ t.render) :
    line = t.titleLine ∨
      line.head? ∈ [some '┏', some '┃', some '┡', some '│', some '└'] := by
  simp only [render, List.cons_append, List.nil_append, List.mem_cons,
    List.mem_append, List.mem_map, List.not_mem_nil, or_false] at hline
  rcases hline with rfl | rfl | rfl | rfl | ⟨r, -, rfl⟩ | rfl
  · exact .inl rfl
  all_goals exact .inr (by simp [border, row])

/-- The lines of a record begin with a bracket or a blank. -/
theorem head?_of_mem_recordLines {time : Option (List Char)}
    (htime : ∀ s ∈ time, s.head? = some '[') {level text line : List Char}
    (hline : line ∈ recordLines time level text) :
    line.head? ∈ [some '[', some ' '] := by
  simp only [recordLines] at hline
  split at hline
  · cases hline
  rcases List.mem_cons.mp hline with rfl | hline
  · cases time with
    | none => exact .tail _ (.head _)
    | some s =>
        obtain ⟨rest, rfl⟩ := List.head?_eq_some_iff.mp (htime s rfl)
        exact .head _
  · obtain ⟨later, -, rfl⟩ := List.mem_map.mp hline
    exact .tail _ (.head _)

end Console

namespace CommandLine

/-- The note that a count is below the threshold. -/
def noteLine : List Char :=
  "Below threshold: no cache tokens reported".toList

theorem head?_noteLine : noteLine.head? = some 'B' := rfl

theorem noteLine_not_mem_render (rows : List (String × Int)) :
    noteLine ∉ (Piece.tableOf rows).render := by
  intro hline
  have hhead := head?_noteLine
  rcases (Piece.tableOf rows).head?_of_mem_render hline with htitle | hbox
  · rcases (Piece.tableOf rows).head?_titleLine with hblank | ⟨s, htext⟩
    · rw [htitle, hblank] at hhead
      cases hhead
    · rw [htitle, htext] at hhead
      cases hhead
  · rw [hhead] at hbox
    exact absurd hbox (by decide)

theorem noteLine_not_mem_recordLines (now : Moment) (timed : Bool)
    (level text : List Char) :
    noteLine ∉ Console.recordLines
      (if timed then some (Console.stamp now) else none) level text := by
  intro hline
  have htime : ∀ s ∈ (if timed then some (Console.stamp now) else none),
      s.head? = some '[' := by
    intro s hs
    cases timed with
    | false => cases hs
    | true =>
        cases hs
        rfl
  have hhead := Console.head?_of_mem_recordLines htime hline
  rw [head?_noteLine] at hhead
  exact absurd hhead (by decide)

/-! ## Where the note is shown -/

/-- The lines of a run are those of its pieces, however the run ends. -/
theorem Report.lines_transcript (now : Moment) (report : Report) :
    (report.transcript now).lines = (piecesLines now report.pieces).1 := by
  unfold transcript
  split
  next hpieces => rw [hpieces]
  next hpieces => rw [hpieces]

/-- Records are no notes. -/
theorem noteLine_mem_records_append_iff (now : Moment) {records : List Piece}
    (hrecords : AreRecords records) (rest : List Piece) :
    noteLine ∈ (piecesLines now (records ++ rest)).1 ↔
      noteLine ∈ (piecesLines now rest).1 := by
  induction records with
  | nil => exact Iff.rfl
  | cons piece records ih =>
      obtain ⟨event, timed, rfl⟩ := hrecords piece List.mem_cons_self
      have hrest := ih fun p hp => hrecords p (List.mem_cons_of_mem _ hp)
      have hlines : (piecesLines now
          (.record event timed :: (records ++ rest))).1 =
        Console.recordLines (if timed then some (Console.stamp now) else none)
            event.level.name.toList (event.text?.getD "").toList ++
          (piecesLines now (records ++ rest)).1 := rfl
      rw [List.cons_append, hlines, List.mem_append, hrest]
      exact or_iff_right (noteLine_not_mem_recordLines now timed _ _)

theorem noteLine_mem_splitPieces_iff (now : Moment) (s : Split)
    (output : Option Int) :
    noteLine ∈ (piecesLines now (Report.splitPieces s output)).1 ↔
      ¬s.HasCache := by
  have htable := noteLine_not_mem_render (Report.rows s output)
  simp only [Report.splitPieces]
  split
  next hcache =>
    have hlines : (piecesLines now [.table (Report.rows s output)]).1 =
        (Piece.tableOf (Report.rows s output)).render ++ [] := rfl
    rw [hlines, List.append_nil]
    exact iff_of_false htable (not_not_intro hcache)
  next hcache =>
    have hlines : (piecesLines now
        [.table (Report.rows s output), .noCache]).1 =
      (Piece.tableOf (Report.rows s output)).render ++ [noteLine] := rfl
    rw [hlines]
    exact iff_of_true (List.mem_append_right _ List.mem_cons_self) hcache

theorem lines_failure (now : Moment) (fault : Fault) :
    ((Report.failure [] fault).transcript now).lines =
      (messageLines fault.message.toList).toOption.getD [] := by
  rw [Report.lines_transcript, Report.failure, List.nil_append]
  simp only [piecesLines, lines_fault]
  cases messageLines fault.message.toList with
  | error breakage => rfl
  | ok lines => exact List.append_nil lines

/-- A command that fails for a numeral shows its fault and nothing else. -/
theorem noteLine_not_mem_numeralTooLong (now : Moment) :
    noteLine ∉
      ((Report.failure [] .numeralTooLong).transcript now).lines := by
  rw [lines_failure]
  decide +kernel

section

variable {host : Host} {before : Recording} {request : SplitRequest}
  {config : Config} (hjson : request.json = false)
  (hconfig : Report.configAt host request.config = .ok config)
  (htotal : 0 ≤ request.total) (houtput : ∀ n ∈ request.output, 0 ≤ n)

include hjson hconfig htotal houtput

/-- Behind whatever is recorded, a split is shown with the note if it holds no cache tokens. -/
theorem noteLine_mem_of_recorded (now : Moment) {after : Recording}
    {records : List Piece}
    (hrecord : (request.recording before).record
      [config.ratio.event request.total.toNat] = .ok (records, after)) :
    noteLine ∈
        ((Report.distribute host before request).1.transcript now).lines ↔
      ¬(config.ratio.split request.total.toNat).HasCache := by
  have hrecords := Recording.areRecords_record hrecord
  rw [Report.distribute_of_recorded hconfig htotal houtput hrecord,
    Report.lines_transcript, Report.usagePieces_eq_splitPieces hjson,
    noteLine_mem_records_append_iff now hrecords]
  exact noteLine_mem_splitPieces_iff now _ _

/-- The note is shown where the split holds no cache tokens, unless the command fails because it
cannot record the count. -/
theorem noteLine_mem_distribute_iff (before : Recording) (now : Moment) :
    noteLine ∈
        ((Report.distribute host before request).1.transcript now).lines ↔
      (request.recording before = .off ∨
        (config.ratio.event request.total.toNat).text?.isSome) ∧
      ¬(config.ratio.split request.total.toNat).HasCache := by
  by_cases hrecorded : request.recording before = .off ∨
      (config.ratio.event request.total.toNat).text?.isSome
  · obtain ⟨records, after, hrecord⟩ := Recording.exists_record hrecorded
    rw [noteLine_mem_of_recorded hjson hconfig htotal houtput now hrecord]
    exact (and_iff_right hrecorded).symm
  · obtain ⟨hon, hworded⟩ := not_or.mp hrecorded
    rw [Report.distribute_of_not_worded hon hconfig htotal hworded]
    refine iff_of_false (noteLine_not_mem_numeralTooLong now) ?_
    rintro ⟨hshown, -⟩
    exact hrecorded hshown

end

/-- A count and an output leave a table, and below it the note if the split holds no cache tokens;
only a record that cannot be written prevents that.  So the note tells the truth on the threshold
exactly if no such record prevents it below the threshold, and if from the threshold on there is a
token to split and a part for the cache. -/
theorem note_tells_threshold_iff (around : Surroundings) (before : Recording)
    {words : List String} {request : SplitRequest} {config : Config}
    (hwords : Invocation.ofWords words = .ok (.distribute request))
    (hjson : request.json = false)
    (hconfig : Report.configAt around.host request.config = .ok config)
    (htotal : 0 ≤ request.total) (houtput : ∀ n ∈ request.output, 0 ≤ n) :
    ∃ transcript,
      (runOnce around before words).1 = .ok transcript ∧
      (noteLine ∈ transcript.lines ↔
        (request.recording before = .off ∨
          (request.total < config.ratio.threshold →
            Decimal.Writable config.ratio.threshold)) ∧
        ¬(config.ratio.split request.total.toNat).HasCache) ∧
      ((noteLine ∈ transcript.lines ↔
          request.total < config.ratio.threshold) ↔
        (request.recording before = .off ∨
          (request.total < config.ratio.threshold →
            Decimal.Writable config.ratio.threshold)) ∧
        (config.ratio.threshold ≤ request.total →
          0 < request.total ∧
            (0 < config.ratio.creation ∨ 0 < config.ratio.read))) := by
  have hnote :=
    noteLine_mem_distribute_iff hjson hconfig htotal houtput before around.now
  rw [isSome_text?_event_of_ofWords hwords htotal] at hnote
  refine ⟨_, runOnce_distribute hwords around before, hnote, ?_⟩
  have hpos : 0 < request.total.toNat ↔ 0 < request.total := by omega
  have hreached : config.ratio.threshold ≤ request.total.toNat ↔
      (config.ratio.threshold : Int) ≤ request.total := by
    omega
  rw [config.ratio.hasCache_split_iff, hpos, hreached] at hnote
  rw [hnote]
  by_cases hbelow : request.total < config.ratio.threshold
  -- nothing is split, so only a record that fails keeps the note away
  · have hnot := Int.not_le.mpr hbelow
    simp only [hbelow, hnot, false_and, and_false, not_false_eq_true, and_true,
      forall_const, iff_true, false_implies]
  -- the threshold is not recorded, so the split alone decides on the note
  · have hle := Int.not_lt.mp hbelow
    simp only [hbelow, hle, false_implies, or_true, true_and, iff_false,
      Decidable.not_not, forall_const]

/-- Under the standard ratio the note is shown up to a count of ninety-nine. -/
theorem note_shown_ninety_nine :
    ∃ below reached,
      (runOnce ⟨Disk.empty, ⟨⟨2024, 1, 2⟩, 3, 4, 5, 0, none⟩⟩ .off
        ["distribute", "99"]).1 = .ok below ∧
      (runOnce ⟨Disk.empty, ⟨⟨2024, 1, 2⟩, 3, 4, 5, 0, none⟩⟩ .off
        ["distribute", "100", "--output-tokens", "7"]).1 = .ok reached ∧
      noteLine ∈ below.lines ∧ noteLine ∉ reached.lines := by
  have hbelow : Invocation.ofWords ["distribute", "99"] =
      .ok (.distribute { total := 99 }) := rfl
  have hreached :
      Invocation.ofWords ["distribute", "100", "--output-tokens", "7"] =
        .ok (.distribute { total := 100, output := some 7 }) := rfl
  have hconfig : Report.configAt Disk.empty none = .ok Config.standard := rfl
  obtain ⟨below, hrun, -, htells⟩ := note_tells_threshold_iff
    ⟨Disk.empty, ⟨⟨2024, 1, 2⟩, 3, 4, 5, 0, none⟩⟩ .off hbelow rfl hconfig
    (by decide) (by decide)
  obtain ⟨reached, hrunReached, -, htellsReached⟩ := note_tells_threshold_iff
    ⟨Disk.empty, ⟨⟨2024, 1, 2⟩, 3, 4, 5, 0, none⟩⟩ .off hreached rfl hconfig
    (by decide) (by decide)
  refine ⟨below, reached, hrun, hrunReached, ?_, ?_⟩
  · exact (htells.mpr ⟨.inl rfl, by decide⟩).mpr (by decide)
  · exact mt (htellsReached.mpr ⟨.inl rfl, by decide⟩).mp (by decide)

/-- A document with a ratio that has no part for the cache. -/
def inputText : List Char :=
  "ratio:\n  input: 1\n  cache_creation: 0\n  cache_read: 0\n".toList

/-- A disk with such a document in a file. -/
def inputDisk : Disk :=
  Disk.empty.write "config.yaml" (.file (Text.encodeUtf8 inputText))

theorem configAt_inputDisk :
    Report.configAt inputDisk (some "config.yaml") =
      .ok (Config.ofSchema ⟨1, 0, 0, 100, by decide⟩ true [.ratio]) := by
  have hdigits : ∀ field, (⟨1, 0, 0, 100, by decide⟩ : Ratio).get field <
      Nat.pow 10 Decimal.digitLimit := by
    intro field
    cases field <;> decide +kernel
  have htext : inputText =
      Config.schemaText ⟨1, 0, 0, 100, by decide⟩ true [.ratio] := by
    decide +kernel
  have hfile : inputDisk.find (Path.ofString "config.yaml") =
      .found (.file (Text.encodeUtf8 inputText)) := rfl
  obtain ⟨o, ending, hending, hsplit, hvalue⟩ :=
    Config.exists_outline_of_schemaText hdigits true (by decide) (by decide)
      (.inl htext)
  rw [hsplit] at hfile
  rw [Report.configAt, Config.load_outline o hending hfile, hvalue]

/-- If all parts are input, a count of ten times the threshold is still said to be below it. -/
theorem note_shown_input_ratio :
    ∃ config transcript,
      Report.configAt inputDisk (some "config.yaml") = .ok config ∧
      (runOnce ⟨inputDisk, ⟨⟨2024, 1, 2⟩, 3, 4, 5, 0, none⟩⟩ .off
        ["distribute", "1000", "--config", "config.yaml"]).1 =
          .ok transcript ∧
      transcript.exitCode = 0 ∧
      noteLine ∈ transcript.lines ∧
      config.ratio.threshold = 100 ∧ ¬1000 < config.ratio.threshold := by
  let request : SplitRequest :=
    { total := 1000, config := some "config.yaml" }
  have hwords : Invocation.ofWords
      ["distribute", "1000", "--config", "config.yaml"] =
        .ok (.distribute request) := rfl
  have hconfig : Report.configAt inputDisk request.config =
      .ok (Config.ofSchema ⟨1, 0, 0, 100, by decide⟩ true [.ratio]) :=
    configAt_inputDisk
  have hnote := noteLine_mem_distribute_iff rfl hconfig (by decide) (by decide)
    .off ⟨⟨2024, 1, 2⟩, 3, 4, 5, 0, none⟩
  refine ⟨_, _, hconfig, runOnce_distribute hwords _ .off, ?_, ?_, rfl,
    by decide⟩
  · rw [Report.distribute_off rfl hconfig]
    exact Report.exitCode_unrecorded _ _ (by decide) (by decide)
  · exact hnote.mpr ⟨.inl rfl, by decide⟩

end CommandLine

end TokenSplit
