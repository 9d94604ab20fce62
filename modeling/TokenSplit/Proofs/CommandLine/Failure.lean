import TokenSplit.Proofs.CommandLine.Distribute
import TokenSplit.Proofs.CommandLine.Message

/-!
# How failures are reported

A command that fails shows the message of the fault, and does so faithfully exactly if the message
comes through.  A command that does not fail is shown in full, but for a ratio whose numbers have
no numerals.
-/

namespace TokenSplit

/-- All numbers that are shown of a ratio have numerals. -/
structure Ratio.Writable (r : Ratio) : Prop where
  input : Decimal.Writable r.input
  creation : Decimal.Writable r.creation
  read : Decimal.Writable r.read
  total : Decimal.Writable r.totalParts
  threshold : Decimal.Writable r.threshold

namespace CommandLine

open Console.Markup (Verbatim)

namespace Invocation

/-- What a command comes to, whatever is shown of it: the fault that loading
the configuration, splitting or building the usage raises, if one does. -/
def outcome (host : Host) (before : Recording) :
    Invocation → Except Fault Unit
  | .hint => .ok ()
  | .help => .ok ()
  | .ratio path => do
    let _ ← Report.configAt host path
    return ()
  | .distribute request => do
    let config ← Report.configAt host request.config
    let _ ← (request.recording before).record
      (config.ratio.allocate (.int request.total)).log
    let _ ← config.reported request.total request.output
    return ()

/-- All numbers that a command shows have numerals. -/
def Writable (host : Host) : Invocation → Prop
  | .ratio path =>
    ∀ config, Report.configAt host path = .ok config → config.ratio.Writable
  | _ => True

end Invocation

namespace Transcript

/-- The command does not break off, and it succeeds or reports the fault that
was raised. -/
def Faithful (t : Transcript) (outcome : Except Fault Unit) : Prop :=
  t.breakage = none ∧
    (t.exitCode = 0 ∨ ∃ fault, outcome = .error fault ∧ t.Reports fault)

end Transcript

/-! ## What the commands leave -/

theorem exists_texts_iff (r : Ratio) :
    (∃ parts threshold,
      Piece.partsText? r = some parts ∧
      Piece.thresholdText? r = some threshold) ↔ r.Writable := by
  constructor
  · rintro ⟨parts, threshold, hparts, hthreshold⟩
    simp only [Piece.partsText?, Piece.thresholdText?, Decimal.numeral?,
      Decimal.grouped?] at hparts hthreshold
    refine ⟨?_, ?_, ?_, ?_, ?_⟩ <;>
      refine Classical.byContradiction fun hnot => ?_ <;>
      simp [hnot] at hparts hthreshold
  · intro h
    simp [Piece.partsText?, Piece.thresholdText?, Decimal.numeral?,
      Decimal.grouped?, h.input, h.creation, h.read, h.total, h.threshold]

theorem exists_transcript_ratio (now : Moment) {r : Ratio}
    (h : r.Writable) :
    ∃ lines,
      Report.transcript now ⟨[.parts r, .threshold r], false⟩ =
        ⟨lines, 0, none⟩ := by
  obtain ⟨parts, threshold, hparts, hthreshold⟩ := (exists_texts_iff r).mpr h
  simp [Report.transcript, piecesLines, Piece.lines, Piece.textLines, hparts,
    hthreshold]

theorem writable_of_transcript_ratio {now : Moment} {r : Ratio}
    (h : (Report.transcript now
      ⟨[.parts r, .threshold r], false⟩).breakage = none) : r.Writable := by
  rw [← exists_texts_iff]
  cases hparts : Piece.partsText? r with
  | none =>
      simp [Report.transcript, piecesLines, Piece.lines, Piece.textLines,
        hparts] at h
  | some parts =>
      cases hthreshold : Piece.thresholdText? r with
      | none =>
          simp [Report.transcript, piecesLines, Piece.lines, Piece.textLines,
            hparts, hthreshold] at h
      | some threshold => exact ⟨parts, threshold, rfl, rfl⟩

/-- What is shown of a usage never breaks off. -/
theorem transcript_usagePieces (now : Moment) {records : List Piece}
    (hrecords : AreRecords records) (request : SplitRequest) (ratio : Ratio)
    (usage : Usage) :
    Report.transcript now
        ⟨records ++ Report.usagePieces request ratio usage, false⟩ =
      ⟨(piecesLines now records).1 ++
          (piecesLines now (Report.usagePieces request ratio usage)).1,
        0, none⟩ := by
  have happend := piecesLines_append now hrecords
    (Report.usagePieces request ratio usage)
  have hunbroken :
      (piecesLines now (Report.usagePieces request ratio usage)).2 = none := by
    simp only [Report.usagePieces, Report.splitPieces]
    split
    · rfl
    split <;> rfl
  rw [hunbroken] at happend
  simp [Report.transcript, happend]

/-- Nothing is recorded before a fault but before a refused output, whose
message is verbatim. -/
theorem records_eq_nil_or_verbatim {recording after : Recording}
    {config : Config} {total : Int} {output : Option Int}
    {records : List Piece} {fault : Fault}
    (hrecord :
      recording.record (config.ratio.allocate (.int total)).log =
        .ok (records, after))
    (hfault : config.reported total output = .error fault) :
    records = [] ∨ Verbatim fault.message.toList := by
  rw [Config.reported] at hfault
  rcases config.ratio.report_cases total output config.omitEmpty with
    ⟨htotal, hresult⟩ | ⟨-, -, hresult⟩ | ⟨-, -, hresult⟩
  · left
    rw [config.ratio.allocate_of_fault
      (Value.tokens_int_of_neg htotal)] at hrecord
    cases hrecord
    rfl
  · right
    rw [hresult] at hfault
    cases hfault
    decide
  · rw [hresult] at hfault
    cases hfault

/-- The command that splits a count ends with the fault that was raised, or
shows a usage. -/
theorem distribute_outcome_cases (host : Host) (before : Recording)
    (request : SplitRequest) :
    ∃ records : List Piece,
      AreRecords records ∧
      ((∃ fault,
        (Invocation.distribute request).outcome host before = .error fault ∧
        (records = [] ∨ Verbatim fault.message.toList) ∧
        (Report.distribute host before request).1 =
          Report.failure records fault) ∨
      ∃ ratio usage,
        (Invocation.distribute request).outcome host before = .ok () ∧
        (Report.distribute host before request).1 =
          ⟨records ++ Report.usagePieces request ratio usage, false⟩) := by
  cases hconfig : Report.configAt host request.config with
  | error fault =>
      refine ⟨[], areRecords_nil, .inl ⟨fault, ?_, .inl rfl, ?_⟩⟩
      · simp only [Invocation.outcome, hconfig, bind, Except.bind]
      · simp only [Report.distribute, hconfig]
  | ok config =>
      cases hrecord : (request.recording before).record
          (config.ratio.allocate (.int request.total)).log with
      | error fault =>
          refine ⟨[], areRecords_nil, .inl ⟨fault, ?_, .inl rfl, ?_⟩⟩
          · simp only [Invocation.outcome, hconfig, hrecord, bind, Except.bind]
          · simp only [SplitRequest.recording] at hrecord
            simp only [Report.distribute, hconfig, hrecord]
      | ok recorded =>
          obtain ⟨records, after⟩ := recorded
          have hdistribute := Report.distribute_of_config hconfig hrecord
          refine ⟨records, Recording.areRecords_record hrecord, ?_⟩
          cases husage : config.reported request.total request.output with
          | error fault =>
              refine .inl
                ⟨fault, ?_, records_eq_nil_or_verbatim hrecord husage, ?_⟩
              · simp only [Invocation.outcome, hconfig, hrecord, husage, bind,
                  Except.bind]
              · rw [Config.reported] at husage
                rw [hdistribute, husage]
          | ok usage =>
              refine .inr ⟨config.ratio, usage, ?_, ?_⟩
              · simp only [Invocation.outcome, hconfig, hrecord, husage, bind,
                  Except.bind]
                rfl
              · rw [Config.reported] at husage
                rw [hdistribute, husage]

/-! ## Faithful transcripts -/

theorem faithful_failure_iff (now : Moment) (records : List Piece)
    (fault : Fault) :
    ((Report.failure records fault).transcript now).Faithful (.error fault) ↔
      ((Report.failure records fault).transcript now).Reports fault := by
  have hexit := Report.transcript_failure now records fault
  constructor
  · rintro ⟨-, hzero | ⟨other, hother, hreports⟩⟩
    · rw [hexit] at hzero
      cases hzero
    · cases hother
      exact hreports
  · intro h
    exact ⟨h.unbroken, .inr ⟨fault, rfl, h⟩⟩

/-- A transcript is faithful if the message of the fault that was raised is
verbatim and steady and all numbers have numerals, and it is not faithful if a
number has none or the message is not verbatim. -/
structure FaithfulIfVerbatim (host : Host) (before : Recording)
    (invocation : Invocation) (t : Transcript) : Prop where
  faithful :
    invocation.Writable host →
    (∀ fault, invocation.outcome host before = .error fault →
      Verbatim fault.message.toList ∧ Steady fault.message.toList) →
    t.Faithful (invocation.outcome host before)
  writable :
    t.Faithful (invocation.outcome host before) → invocation.Writable host
  verbatim :
    t.Faithful (invocation.outcome host before) →
    ∀ fault, invocation.outcome host before = .error fault →
      Verbatim fault.message.toList

namespace FaithfulIfVerbatim

variable {host : Host} {before : Recording} {invocation : Invocation}

theorem of_failure (now : Moment) {records : List Piece} {fault : Fault}
    (hrecords : AreRecords records)
    (hverbatim : records = [] ∨ Verbatim fault.message.toList)
    (houtcome : invocation.outcome host before = .error fault)
    (hwritable : invocation.Writable host) :
    FaithfulIfVerbatim host before invocation
      ((Report.failure records fault).transcript now) := by
  refine ⟨?_, fun _ => hwritable, ?_⟩
  · intro _ hfault
    obtain ⟨hverbatim, hsteady⟩ := hfault fault houtcome
    rw [houtcome, faithful_failure_iff]
    exact Report.reports_of_verbatim now hrecords hverbatim hsteady
  · intro hfaithful other hother
    rw [houtcome] at hfaithful hother
    cases hother
    rw [faithful_failure_iff] at hfaithful
    rcases hverbatim with rfl | hverbatim
    · exact Report.verbatim_of_reports now hfaithful
    · exact hverbatim

theorem of_success {t : Transcript}
    (houtcome : invocation.outcome host before = .ok ())
    (hshown : invocation.Writable host → ∃ lines, t = ⟨lines, 0, none⟩)
    (hunbroken : t.breakage = none → invocation.Writable host) :
    FaithfulIfVerbatim host before invocation t := by
  refine ⟨?_, fun h => hunbroken h.1, ?_⟩
  · intro hwritable _
    obtain ⟨lines, rfl⟩ := hshown hwritable
    exact ⟨rfl, .inl rfl⟩
  · intro _ fault hfault
    rw [houtcome] at hfault
    cases hfault

end FaithfulIfVerbatim

theorem Report.ratio_faithfulIfVerbatim (host : Host) (now : Moment)
    (before : Recording) (path : Option String) :
    FaithfulIfVerbatim host before (.ratio path)
      ((Report.ratio host path).transcript now) := by
  cases hconfig : configAt host path with
  | error fault =>
      have houtcome : (Invocation.ratio path).outcome host before =
          .error fault := by
        simp only [Invocation.outcome, hconfig, bind, Except.bind]
      have hwritable : (Invocation.ratio path).Writable host := by
        intro config h
        rw [hconfig] at h
        cases h
      simp only [Report.ratio, hconfig]
      exact .of_failure now areRecords_nil (.inl rfl) houtcome hwritable
  | ok config =>
      have houtcome : (Invocation.ratio path).outcome host before = .ok () := by
        simp only [Invocation.outcome, hconfig, bind, Except.bind]
        rfl
      simp only [Report.ratio, hconfig]
      refine .of_success houtcome ?_ ?_
      · intro h
        exact exists_transcript_ratio now (h config hconfig)
      · intro h other hother
        rw [hconfig] at hother
        cases hother
        exact writable_of_transcript_ratio h

theorem Report.distribute_faithfulIfVerbatim (host : Host) (now : Moment)
    (before : Recording) (request : SplitRequest) :
    FaithfulIfVerbatim host before (.distribute request)
      ((Report.distribute host before request).1.transcript now) := by
  obtain ⟨records, hrecords, hcases⟩ :=
    distribute_outcome_cases host before request
  rcases hcases with
    ⟨fault, houtcome, hverbatim, hreport⟩ | ⟨ratio, usage, houtcome, hreport⟩
  · rw [hreport]
    exact .of_failure now hrecords hverbatim houtcome trivial
  · rw [hreport]
    have hshown := transcript_usagePieces now hrecords request ratio usage
    exact .of_success houtcome (fun _ => ⟨_, hshown⟩) fun _ => trivial

/-- Every command line that can be read leaves a transcript.  It is faithful
unless the message of the fault that was raised is not verbatim or not steady
or a number of the ratio has no numeral; of these, a message that is not
verbatim and a number without a numeral are never shown faithfully. -/
theorem faithfulIfVerbatim_runOnce (around : Surroundings)
    (before : Recording) {words : List String} {invocation : Invocation}
    (hwords : Invocation.ofWords words = .ok invocation) :
    ∃ transcript,
      (runOnce around before words).1 = .ok transcript ∧
      FaithfulIfVerbatim around.host before invocation transcript := by
  refine ⟨(invocation.run around.host before).1.transcript around.now, ?_, ?_⟩
  · simp only [runOnce, hwords]
  cases invocation with
  | hint => exact .of_success rfl (fun _ => ⟨_, rfl⟩) fun _ => trivial
  | help => exact .of_success rfl (fun _ => ⟨_, rfl⟩) fun _ => trivial
  | ratio path =>
      exact Report.ratio_faithfulIfVerbatim around.host around.now before path
  | distribute request =>
      exact Report.distribute_faithfulIfVerbatim around.host around.now before
        request

theorem faithful_missing :
    ∃ transcript,
      (runOnce ⟨Disk.empty, ⟨⟨2024, 1, 2⟩, 3, 4, 5, 0, none⟩⟩ .off
        ["ratio", "--config", "missing.yaml"]).1 = .ok transcript ∧
      transcript.Faithful (.error (.fileMissing "missing.yaml")) := by
  have hwords : Invocation.ofWords ["ratio", "--config", "missing.yaml"] =
      .ok (.ratio (some "missing.yaml")) := rfl
  have houtcome :
      (Invocation.ratio (some "missing.yaml")).outcome Disk.empty .off =
        .error (.fileMissing "missing.yaml") := rfl
  obtain ⟨transcript, hrun, hfaithful⟩ := faithfulIfVerbatim_runOnce
    ⟨Disk.empty, ⟨⟨2024, 1, 2⟩, 3, 4, 5, 0, none⟩⟩ .off hwords
  have hwritable : (Invocation.ratio (some "missing.yaml")).Writable
      Disk.empty := by
    intro config hconfig
    cases hconfig
  have hmessage : ∀ fault,
      (Invocation.ratio (some "missing.yaml")).outcome Disk.empty .off =
        .error fault →
      Verbatim fault.message.toList ∧ Steady fault.message.toList := by
    intro fault hfault
    rw [houtcome] at hfault
    cases hfault
    exact ⟨by decide +kernel, by decide +kernel, by decide +kernel⟩
  have h := hfaithful.faithful hwritable hmessage
  rw [houtcome] at h
  exact ⟨transcript, hrun, h⟩

/-- A path that ends like a closing tag breaks the command off. -/
theorem not_faithful_closing_tag :
    ∃ transcript,
      (runOnce ⟨Disk.empty, ⟨⟨2024, 1, 2⟩, 3, 4, 5, 0, none⟩⟩ .off
        ["ratio", "--config", "x[/]"]).1 = .ok transcript ∧
      transcript.exitCode = 1 ∧
      ∀ outcome, ¬transcript.Faithful outcome := by
  have hwords : Invocation.ofWords ["ratio", "--config", "x[/]"] =
      .ok (.ratio (some "x[/]")) := rfl
  have hexit : ((Report.ratio Disk.empty (some "x[/]")).transcript
      ⟨⟨2024, 1, 2⟩, 3, 4, 5, 0, none⟩).exitCode = 1 := by
    decide +kernel
  have hbroken : ((Report.ratio Disk.empty (some "x[/]")).transcript
      ⟨⟨2024, 1, 2⟩, 3, 4, 5, 0, none⟩).breakage = some .markup := by
    decide +kernel
  refine ⟨_, by simp only [runOnce, hwords, Invocation.run], hexit, ?_⟩
  rintro outcome ⟨hunbroken, -⟩
  rw [hbroken] at hunbroken
  cases hunbroken

end CommandLine

end TokenSplit
