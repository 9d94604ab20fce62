import TokenSplit.Proofs.CommandLine.Distribute

/-!
# Machine-readable output

A command that is asked for a document and succeeds always ends with the document of the usage.
Records go to the same screen, so all that it writes is that document exactly if nothing is
recorded.
-/

namespace TokenSplit.CommandLine

/-- A document that is asked for is alone on the screen, or stands behind one record. -/
theorem transcript_of_json {host : Host} {before : Recording}
    {request : SplitRequest} (now : Moment) (hjson : request.json)
    (hexit :
      ((Report.distribute host before request).1.transcript now).exitCode = 0) :
    ∃ config fields,
      Report.configAt host request.config = .ok config ∧
      config.reported request.total request.output =
        .ok (.ofIntegers fields) ∧
      if request.recording before = .off then
        (Report.distribute host before request).1.transcript now =
          ⟨[(Usage.ofIntegers fields).document.print], 0, none⟩
      else
        ∃ lines,
          (Report.distribute host before request).1.transcript now =
            ⟨lines ++ [(Usage.ofIntegers fields).document.print], 0, none⟩ ∧
          ∀ later,
            Json.parse? ((lines ++ later).flatMap (· ++ ['\n'])) = none := by
  rcases Report.distribute_cases host before request with
    ⟨pieces, fault, hfailure⟩ |
      ⟨config, usage, records, after, hconfig, husage, hrecord, hsuccess⟩
  · rw [hfailure, Report.transcript_failure] at hexit
    cases hexit
  obtain ⟨fields, rfl⟩ := config.ratio.exists_fields_of_report husage
  refine ⟨config, fields, hconfig, husage, ?_⟩
  have htotal : 0 ≤ request.total :=
    ((config.ratio.exists_report_iff _ _ _).mp ⟨_, husage⟩).1
  rw [config.ratio.allocate_of_tokens
    (Value.tokens_int_of_nonneg htotal)] at hrecord
  rw [hsuccess, Report.usagePieces, if_pos hjson]
  split
  next hoff =>
    rw [hoff, Recording.record_off] at hrecord
    cases hrecord
    exact Report.transcript_document now _
  next hon =>
    rw [Recording.record_single hon hrecord]
    obtain ⟨lines, hlines, hparse⟩ := Piece.exists_lines_record now
      (config.ratio.level_event request.total.toNat)
      (decide (request.recording before = .untimed))
    exact ⟨lines, Report.transcript_record now hlines _, hparse⟩

/-- A command that succeeds with a document asked for writes, as its last line, the document of
the usage that is reported.  All that it writes is one document with that usage exactly if
records are off and not turned on by the command; behind a record it is no document at all. -/
theorem shows_iff_unrecorded (around : Surroundings) (before : Recording)
    {words : List String} {request : SplitRequest} {transcript : Transcript}
    (hwords : Invocation.ofWords words = .ok (.distribute request))
    (hjson : request.json)
    (hrun : (runOnce around before words).1 = .ok transcript)
    (hexit : transcript.exitCode = 0) :
    ∃ config usage,
      Report.configAt around.host request.config = .ok config ∧
      config.reported request.total request.output = .ok usage ∧
      (∃ line,
        transcript.lines.getLast? = some line ∧ '\n' ∉ line ∧
        (Json.parse? line).bind Usage.ofDocument? = some usage) ∧
      (transcript.Shows usage ↔ before = .off ∧ request.verbose = false) ∧
      (¬transcript.Shows usage → Json.parse? transcript.text = none) := by
  rw [runOnce_distribute hwords] at hrun
  obtain rfl := Except.ok.inj hrun
  obtain ⟨config, fields, hconfig, husage, hlines⟩ :=
    transcript_of_json around.now hjson hexit
  refine ⟨config, _, hconfig, husage, ?_⟩
  rw [← request.recording_eq_off_iff before]
  have hline :
      (Json.parse? (Usage.ofIntegers fields).document.print).bind
          Usage.ofDocument? =
        some (Usage.ofIntegers fields) := by
    have hgap : [].all Json.isGap := rfl
    simpa using ofDocument?_line fields hgap
  by_cases hoff : request.recording before = .off
  · rw [if_pos hoff] at hlines
    rw [hlines]
    have hshows : Transcript.Shows
        ⟨[(Usage.ofIntegers fields).document.print], 0, none⟩
        (Usage.ofIntegers fields) :=
      Transcript.shows_of_lines rfl
    exact ⟨⟨_, rfl, Json.newline_not_mem_print _, hline⟩,
      ⟨fun _ => hoff, fun _ => hshows⟩, fun hnot => absurd hshows hnot⟩
  · rw [if_neg hoff] at hlines
    obtain ⟨lines, hlines, hparse⟩ := hlines
    rw [hlines]
    have hnone := hparse [(Usage.ofIntegers fields).document.print]
    refine ⟨⟨_, List.getLast?_concat, Json.newline_not_mem_print _, hline⟩,
      ⟨?_, fun h => absurd h hoff⟩, fun _ => hnone⟩
    intro hshows
    rw [Transcript.Shows, Transcript.text, hnone] at hshows
    cases hshows

theorem shows_thousand :
    ∃ transcript config usage,
      (runOnce ⟨Disk.empty, ⟨⟨2024, 1, 2⟩, 3, 4, 5, 0, none⟩⟩ .off
        ["distribute", "1000", "--json"]).1 = .ok transcript ∧
      Report.configAt Disk.empty none = .ok config ∧
      config.reported 1000 none = .ok usage ∧
      transcript.Shows usage := by
  have hwords : Invocation.ofWords ["distribute", "1000", "--json"] =
      .ok (.distribute { total := 1000, json := true }) := rfl
  obtain ⟨config, usage, hconfig, husage, -, hshows, -⟩ :=
    shows_iff_unrecorded ⟨Disk.empty, ⟨⟨2024, 1, 2⟩, 3, 4, 5, 0, none⟩⟩ .off
      hwords rfl rfl rfl
  exact ⟨_, config, usage, rfl, hconfig, husage, hshows.mpr ⟨rfl, rfl⟩⟩

/-- Asking for a document and for records at once leaves no document. -/
theorem not_shows_thousand_verbose :
    ∃ transcript,
      (runOnce ⟨Disk.empty, ⟨⟨2024, 1, 2⟩, 3, 4, 5, 0, none⟩⟩ .off
        ["distribute", "1000", "--json", "--verbose"]).1 = .ok transcript ∧
      transcript.exitCode = 0 ∧
      ∀ usage, ¬transcript.Shows usage := by
  have hwords :
      Invocation.ofWords ["distribute", "1000", "--json", "--verbose"] =
        .ok (.distribute { total := 1000, json := true, verbose := true }) :=
    rfl
  have hexit :
      ((Report.distribute Disk.empty .off
        { total := 1000, json := true, verbose := true }).1.transcript
          ⟨⟨2024, 1, 2⟩, 3, 4, 5, 0, none⟩).exitCode = 0 := rfl
  refine ⟨_, runOnce_distribute hwords _ _, hexit, ?_⟩
  intro usage hshows
  obtain ⟨config, fields, -, -, lines, htranscript, hparse⟩ :=
    transcript_of_json _ rfl hexit
  rw [htranscript, Transcript.Shows, Transcript.text, hparse] at hshows
  cases hshows

end TokenSplit.CommandLine
