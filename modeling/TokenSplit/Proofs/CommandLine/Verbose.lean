import TokenSplit.Proofs.CommandLine.Count
import TokenSplit.Proofs.CommandLine.Distribute
import TokenSplit.Proofs.CommandLine.Message
import TokenSplit.Proofs.Config.Threshold
import TokenSplit.Proofs.Log

/-!
# Asking for records

A command that is asked for records writes what it writes without them, behind the record of the
count.  It is not so where the record cannot be worded: then the command fails instead, whatever
it writes without records.  That happens for a count below a threshold that has no numeral, and
for no other.
-/

namespace TokenSplit.CommandLine

/-! ## The words that ask for records -/

/-- An invocation that asks for records as well, if it can. -/
def Invocation.recorded : Invocation → Invocation
  | .distribute request => .distribute { request with verbose := true }
  | other => other

namespace Words

/-- Words with the option for records before all others. -/
def recorded (w : Words) : Words :=
  { w with given := (.verbose, "") :: w.given }

theorem read_verbose (rest : List String) :
    read Invocation.distributeSwitches true ("--verbose" :: rest) =
      (read Invocation.distributeSwitches true rest).map recorded := rfl

theorem value?_recorded (w : Words) {switch : Switch}
    (hswitch : switch ≠ .verbose) :
    w.recorded.value? switch = w.value? switch := by
  have hother : (switch == Switch.verbose) = false := beq_false_of_ne hswitch
  simp [value?, recorded, List.lookup_append, List.lookup_cons, hother]

theorem has_verbose_recorded (w : Words) : w.recorded.has .verbose := by
  simp [has, value?, recorded, List.lookup_append]

end Words

namespace Invocation

/-- What is asked for by the sorted words behind the name of the command. -/
def ofSorted (w : Words) : Except Misuse Invocation := do
  if w.has .help then
    return .help
  let output ← outputOf w
  let (total, rest) ← totalOf w
  refuseOperands rest
  return .distribute {
    total := total
    output := output
    config := w.value? .config
    json := w.has .json
    verbose := w.has .verbose }

theorem ofWords_distribute (rest : List String) :
    ofWords ("distribute" :: rest) =
      Words.read distributeSwitches true rest >>= ofSorted := rfl

theorem ofSorted_recorded (w : Words) :
    ofSorted w.recorded = (ofSorted w).map recorded := by
  have hhelp : w.recorded.has .help = w.has .help := by
    rw [Words.has, Words.has, w.value?_recorded (by decide)]
  have hjson : w.recorded.has .json = w.has .json := by
    rw [Words.has, Words.has, w.value?_recorded (by decide)]
  have hconfig : w.recorded.value? .config = w.value? .config :=
    w.value?_recorded (by decide)
  have houtput : outputOf w.recorded = outputOf w := by
    rw [outputOf, outputOf, w.value?_recorded (by decide)]
  have htotal : totalOf w.recorded = totalOf w := rfl
  simp only [ofSorted, hhelp, hjson, hconfig, houtput, htotal,
    w.has_verbose_recorded]
  by_cases hasked : w.has .help
  · rw [if_pos hasked, if_pos hasked]
    rfl
  rw [if_neg hasked, if_neg hasked]
  cases outputOf w with
  | error misuse => rfl
  | ok output =>
      cases totalOf w with
      | error misuse => rfl
      | ok total =>
          simp only [bind, Except.bind]
          cases refuseOperands total.2 with
          | error misuse => rfl
          | ok => rfl

/-- Right behind the name of the command, the option for records asks for nothing else. -/
theorem ofWords_verbose (rest : List String) :
    ofWords ("distribute" :: "--verbose" :: rest) =
      (ofWords ("distribute" :: rest)).map recorded := by
  rw [ofWords_distribute, ofWords_distribute, Words.read_verbose]
  cases Words.read distributeSwitches true rest with
  | error misuse => rfl
  | ok w => exact ofSorted_recorded w

theorem exists_count_of_ofSorted {w : Words} {request : SplitRequest}
    (h : ofSorted w = .ok (.distribute request)) :
    ∃ word, count word = .ok request.total := by
  unfold ofSorted at h
  split at h
  · cases h
  obtain ⟨output, -, h⟩ := bind_eq_ok_iff.mp h
  obtain ⟨⟨total, operands⟩, htotal, h⟩ := bind_eq_ok_iff.mp h
  obtain ⟨-, -, h⟩ := bind_eq_ok_iff.mp h
  cases h
  unfold totalOf at htotal
  split at htotal
  · cases htotal
  next word rest hoperands =>
    cases hcount : count word with
    | error fault =>
        rw [hcount] at htotal
        cases htotal
    | ok n =>
        rw [hcount] at htotal
        cases htotal
        exact ⟨word, hcount⟩

/-- The count of a request was typed. -/
theorem exists_count_of_ofWords {words : List String} {request : SplitRequest}
    (h : ofWords words = .ok (.distribute request)) :
    ∃ word, count word = .ok request.total := by
  unfold ofWords at h
  obtain ⟨w, -, h⟩ := bind_eq_ok_iff.mp h
  split at h
  · cases h
  split at h
  · cases h
  next name rest hoperands =>
    split at h
    · obtain ⟨sorted, -, h⟩ := bind_eq_ok_iff.mp h
      exact exists_count_of_ofSorted h
    split at h
    · unfold ofRatioWords at h
      obtain ⟨sorted, -, h⟩ := bind_eq_ok_iff.mp h
      split at h
      · cases h
      obtain ⟨-, -, h⟩ := bind_eq_ok_iff.mp h
      cases h
    · unfold ofUnknownWords at h
      split at h
      · cases h
      · split at h
        · cases h
        · cases h

end Invocation

/-! ## What recording adds to a report -/

namespace Report

/-- A report behind some pieces. -/
def behind (front : List Piece) (report : Report) : Report :=
  { report with pieces := front ++ report.pieces }

/-- What a request shows of a configuration without its record. -/
def unrecorded (config : Config) (request : SplitRequest) : Report :=
  match config.reported request.total request.output with
  | .error fault => failure [] fault
  | .ok usage => ⟨usagePieces request config.ratio usage, false⟩

theorem distribute_of_fault {host : Host} {request : SplitRequest}
    {fault : Fault} (hconfig : configAt host request.config = .error fault)
    (before : Recording) :
    (distribute host before request).1 = failure [] fault := by
  simp only [distribute, hconfig]

theorem distribute_eq_behind {host : Host} {before after : Recording}
    {request : SplitRequest} {config : Config} {records : List Piece}
    (hconfig : configAt host request.config = .ok config)
    (hrecord :
      (request.recording before).record
          (config.ratio.allocate (.int request.total)).log =
        .ok (records, after)) :
    (distribute host before request).1 =
      (unrecorded config request).behind records := by
  rw [distribute_of_config hconfig hrecord, unrecorded, Config.reported]
  cases (config.ratio.report (.int request.total)
    (outputValue request.output) config.omitEmpty).result with
  | error fault => rfl
  | ok usage => rfl

/-- Without records, a configuration that is found is all that matters. -/
theorem distribute_off {host : Host} {request : SplitRequest}
    {config : Config} (hquiet : request.verbose = false)
    (hconfig : configAt host request.config = .ok config) :
    (distribute host .off request).1 = unrecorded config request := by
  have hoff : request.recording .off = .off :=
    (request.recording_eq_off_iff .off).mpr ⟨rfl, hquiet⟩
  have hrecord :
      (request.recording .off).record
          (config.ratio.allocate (.int request.total)).log =
        .ok ([], .off) := by
    rw [hoff, Recording.record_off]
  exact distribute_eq_behind hconfig hrecord

theorem transcript_behind_record (now : Moment) (event : Event)
    (report : Report) :
    (report.behind [.record event true]).transcript now =
      { report.transcript now with
        lines :=
          Console.recordLines (some (Console.stamp now))
              event.level.name.toList (event.text?.getD "").toList ++
            (report.transcript now).lines } := by
  have hpieces : piecesLines now (report.behind [.record event true]).pieces =
      (Console.recordLines (some (Console.stamp now))
          event.level.name.toList (event.text?.getD "").toList ++
        (piecesLines now report.pieces).1,
      (piecesLines now report.pieces).2) := rfl
  unfold transcript
  rw [hpieces]
  cases piecesLines now report.pieces with
  | mk lines breakage =>
      cases breakage with
      | none => rfl
      | some breakage => rfl

theorem exitCode_unrecorded (now : Moment) (config : Config)
    {request : SplitRequest} (htotal : 0 ≤ request.total)
    (houtput : ∀ n ∈ request.output, 0 ≤ n) :
    ((unrecorded config request).transcript now).exitCode = 0 := by
  obtain ⟨usage, husage⟩ := (config.ratio.exists_report_iff request.total
    request.output config.omitEmpty).mpr ⟨htotal, houtput⟩
  have hreport : unrecorded config request =
      ⟨usagePieces request config.ratio usage, false⟩ := by
    rw [unrecorded, Config.reported, husage]
  rw [hreport]
  exact exitCode_usagePieces now request config.ratio usage

end Report

/-! ## Runs with and without records -/

/-- A request that asks for records as well. -/
def SplitRequest.loud (request : SplitRequest) : SplitRequest :=
  { request with verbose := true }

/-- A count that is below a threshold is only recorded if the threshold has a numeral. -/
def SplitRequest.Recordable (host : Host) (request : SplitRequest) : Prop :=
  ∀ config, Report.configAt host request.config = .ok config →
    0 ≤ request.total → request.total < config.ratio.threshold →
      Decimal.Writable config.ratio.threshold

/-- The run with records ends like the one without and writes the same lines, behind the one
record of the count if there is a configuration and a count to record. -/
structure AddsRecord (around : Surroundings) (request : SplitRequest)
    (quiet loud : Transcript) : Prop where
  exitCode : loud.exitCode = quiet.exitCode
  breakage : loud.breakage = quiet.breakage
  recorded : ∀ config,
    Report.configAt around.host request.config = .ok config →
    0 ≤ request.total →
      ∃ text,
        (config.ratio.event request.total.toNat).text? = some text ∧
        loud.lines =
          Console.recordLines (some (Console.stamp around.now))
              "DEBUG".toList text.toList ++ quiet.lines
  unrecorded :
    (∀ config, Report.configAt around.host request.config ≠ .ok config) ∨
      request.total < 0 →
    loud.lines = quiet.lines

namespace Report

variable {host : Host} {request : SplitRequest} {config : Config}

theorem recording_loud (request : SplitRequest) :
    request.loud.recording .off = .untimed := rfl

/-- Without a count nothing is recorded. -/
theorem distribute_loud_of_neg (hquiet : request.verbose = false)
    (hconfig : configAt host request.config = .ok config)
    (htotal : request.total < 0) :
    (distribute host .off request.loud).1 =
      (distribute host .off request).1 := by
  have hrecord :
      (request.loud.recording .off).record
          (config.ratio.allocate (.int request.loud.total)).log =
        .ok ([], .untimed) := by
    have htokens := Value.tokens_int_of_neg htotal
    rw [recording_loud, SplitRequest.loud, config.ratio.allocate_of_fault htokens]
    rfl
  have hloud : configAt host request.loud.config = .ok config := hconfig
  rw [distribute_off hquiet hconfig]
  exact distribute_eq_behind hloud hrecord

theorem distribute_loud_of_worded (hquiet : request.verbose = false)
    (hconfig : configAt host request.config = .ok config)
    (htotal : 0 ≤ request.total)
    (hworded : (config.ratio.event request.total.toNat).text?.isSome) :
    (distribute host .off request.loud).1 =
      (distribute host .off request).1.behind
        [.record (config.ratio.event request.total.toNat) true] := by
  have hrecord :
      (request.loud.recording .off).record
          (config.ratio.allocate (.int request.loud.total)).log =
        .ok ([.record (config.ratio.event request.total.toNat) true],
          .timed) := by
    have htokens := Value.tokens_int_of_nonneg htotal
    rw [recording_loud, SplitRequest.loud,
      config.ratio.allocate_of_tokens htokens]
    exact Recording.record_worded (by decide) hworded
  have hloud : configAt host request.loud.config = .ok config := hconfig
  rw [distribute_off hquiet hconfig]
  exact distribute_eq_behind hloud hrecord

theorem distribute_of_not_worded {before : Recording}
    (hon : request.recording before ≠ .off)
    (hconfig : configAt host request.config = .ok config)
    (htotal : 0 ≤ request.total)
    (hworded : ¬(config.ratio.event request.total.toNat).text?.isSome) :
    (distribute host before request).1 = failure [] .numeralTooLong := by
  have htokens := Value.tokens_int_of_nonneg htotal
  have hrecord :
      (request.recording before).record
          (config.ratio.allocate (.int request.total)).log =
        .error .numeralTooLong := by
    rw [config.ratio.allocate_of_tokens htokens]
    exact Recording.record_not_worded hon hworded
  rw [SplitRequest.recording] at hrecord
  simp only [distribute, hconfig, hrecord]

end Report

/-- A typed count is worded unless it is below a threshold without a numeral. -/
theorem isSome_text?_event_of_ofWords {words : List String}
    {request : SplitRequest}
    (hwords : Invocation.ofWords words = .ok (.distribute request))
    (htotal : 0 ≤ request.total) (ratio : Ratio) :
    (ratio.event request.total.toNat).text?.isSome ↔
      (request.total < ratio.threshold → Decimal.Writable ratio.threshold) := by
  obtain ⟨word, hcount⟩ := Invocation.exists_count_of_ofWords hwords
  have hwritable : Decimal.Writable request.total.toNat := by
    rw [Int.toNat_of_nonneg htotal]
    exact writable_of_count hcount
  have hbelow : request.total.toNat < ratio.threshold ↔
      request.total < ratio.threshold := by
    omega
  rw [ratio.isSome_text?_event, hbelow]
  exact and_iff_right hwritable

theorem Report.reports_numeralTooLong (now : Moment) :
    ((Report.failure [] .numeralTooLong).transcript now).Reports
      .numeralTooLong := by
  have hverbatim : Console.Markup.Verbatim
      Fault.numeralTooLong.message.toList := by
    decide +kernel
  have hsteady : Steady Fault.numeralTooLong.message.toList :=
    ⟨by decide +kernel, by decide +kernel⟩
  exact Report.reports_of_verbatim now areRecords_nil hverbatim hsteady

/-- Records are added without any other change if the count can be recorded. -/
theorem addsRecord_of_recordable (around : Surroundings) {words : List String}
    {request : SplitRequest}
    (hwords : Invocation.ofWords words = .ok (.distribute request))
    (hquiet : request.verbose = false)
    (hrecordable : request.Recordable around.host) :
    AddsRecord around request
      ((Report.distribute around.host .off request).1.transcript around.now)
      ((Report.distribute around.host .off request.loud).1.transcript
        around.now) := by
  cases hconfig : Report.configAt around.host request.config with
  | error fault =>
      have hsame : (Report.distribute around.host .off request.loud).1 =
          (Report.distribute around.host .off request).1 := by
        have hloud : Report.configAt around.host request.loud.config =
            .error fault := hconfig
        rw [Report.distribute_of_fault hconfig,
          Report.distribute_of_fault hloud]
      rw [hsame]
      refine ⟨rfl, rfl, ?_, fun _ => rfl⟩
      intro config hfound
      rw [hconfig] at hfound
      cases hfound
  | ok config =>
      by_cases htotal : request.total < 0
      · rw [Report.distribute_loud_of_neg hquiet hconfig htotal]
        refine ⟨rfl, rfl, ?_, fun _ => rfl⟩
        intro _ _ hnonneg
        omega
      · have htotal := Int.not_lt.mp htotal
        have hworded := (isSome_text?_event_of_ofWords hwords htotal
          config.ratio).mpr (hrecordable config hconfig htotal)
        obtain ⟨text, htext⟩ := Option.isSome_iff_exists.mp hworded
        rw [Report.distribute_loud_of_worded hquiet hconfig htotal hworded,
          Report.transcript_behind_record]
        refine ⟨rfl, rfl, ?_, ?_⟩
        · intro found hfound _
          rw [hconfig] at hfound
          cases hfound
          refine ⟨text, htext, ?_⟩
          rw [htext, Ratio.level_event]
          rfl
        · rintro (hnone | hneg)
          · exact absurd hconfig (hnone config)
          · omega

/-- A count that cannot be recorded ends the command that is asked to record it. -/
theorem reports_of_not_recordable (around : Surroundings) {words : List String}
    {request : SplitRequest}
    (hwords : Invocation.ofWords words = .ok (.distribute request))
    (hnot : ¬request.Recordable around.host) :
    ∃ config,
      Report.configAt around.host request.config = .ok config ∧
      0 ≤ request.total ∧
      (config.ratio.event request.total.toNat).text? = none ∧
      ((Report.distribute around.host .off request.loud).1.transcript
        around.now).Reports .numeralTooLong := by
  simp only [SplitRequest.Recordable, Classical.not_forall] at hnot
  obtain ⟨config, hconfig, htotal, hbelow, hthreshold⟩ := hnot
  have hworded : ¬(config.ratio.event request.total.toNat).text?.isSome := by
    rw [isSome_text?_event_of_ofWords hwords htotal]
    exact fun h => hthreshold (h hbelow)
  refine ⟨config, hconfig, htotal, ?_, ?_⟩
  · rw [← Option.not_isSome_iff_eq_none]
    exact hworded
  · have hon : request.loud.recording .off ≠ .off := by
      rw [Report.recording_loud]
      decide
    have hloud : Report.configAt around.host request.loud.config =
        .ok config := hconfig
    rw [Report.distribute_of_not_worded hon hloud htotal hworded]
    exact Report.reports_numeralTooLong around.now

theorem recordable_of_addsRecord (around : Surroundings) {words : List String}
    {request : SplitRequest} {quiet loud : Transcript}
    (hwords : Invocation.ofWords words = .ok (.distribute request))
    (hadds : AddsRecord around request quiet loud) :
    request.Recordable around.host := by
  refine Classical.byContradiction fun hnot => ?_
  obtain ⟨config, hconfig, htotal, hnone, -⟩ :=
    reports_of_not_recordable around hwords hnot
  obtain ⟨text, htext, -⟩ := hadds.recorded config hconfig htotal
  rw [hnone] at htext
  cases htext

/-- Right behind the name of the command, the option for records changes nothing of what else is
asked for.  Wherever it is given, the command ends as without it and writes the same, behind the
one record of the count if there is a configuration and a count of zero or more, just where that
count is not below a threshold without a numeral.  Otherwise the command with records fails for
the numeral, and the one without them does not unless the output is below zero. -/
theorem verbose_adds_record_iff (around : Surroundings) (rest : List String) :
    Invocation.ofWords ("distribute" :: "--verbose" :: rest) =
      (Invocation.ofWords ("distribute" :: rest)).map Invocation.recorded ∧
    ∀ {words loudWords : List String} {request : SplitRequest},
      Invocation.ofWords words = .ok (.distribute request) →
      request.verbose = false →
      Invocation.ofWords loudWords =
        .ok (.distribute { request with verbose := true }) →
      ∃ quiet loud,
        (runOnce around .off words).1 = .ok quiet ∧
        (runOnce around .off loudWords).1 = .ok loud ∧
        (AddsRecord around request quiet loud ↔
          request.Recordable around.host) ∧
        (¬request.Recordable around.host →
          loud.Reports .numeralTooLong ∧
          ((∀ n ∈ request.output, 0 ≤ n) → quiet.exitCode = 0)) := by
  refine ⟨Invocation.ofWords_verbose rest, ?_⟩
  intro words loudWords request hwords hquiet hloud
  refine ⟨_, _, runOnce_distribute hwords around .off,
    runOnce_distribute hloud around .off, ⟨?_, ?_⟩, ?_⟩
  · intro hadds
    exact recordable_of_addsRecord around hwords hadds
  · exact addsRecord_of_recordable around hwords hquiet
  · intro hnot
    obtain ⟨config, hconfig, htotal, -, hreports⟩ :=
      reports_of_not_recordable around hwords hnot
    refine ⟨hreports, fun houtput => ?_⟩
    rw [Report.distribute_off hquiet hconfig]
    exact Report.exitCode_unrecorded around.now config htotal houtput

theorem verbose_adds_record_thousand :
    ∃ quiet loud,
      (runOnce ⟨Disk.empty, ⟨⟨2024, 1, 2⟩, 3, 4, 5, 0, none⟩⟩ .off
        ["distribute", "1000"]).1 = .ok quiet ∧
      (runOnce ⟨Disk.empty, ⟨⟨2024, 1, 2⟩, 3, 4, 5, 0, none⟩⟩ .off
        ["distribute", "1000", "--verbose"]).1 = .ok loud ∧
      AddsRecord ⟨Disk.empty, ⟨⟨2024, 1, 2⟩, 3, 4, 5, 0, none⟩⟩
        { total := 1000 } quiet loud := by
  have hwords : Invocation.ofWords ["distribute", "1000"] =
      .ok (.distribute { total := 1000 }) := rfl
  have hloud : Invocation.ofWords ["distribute", "1000", "--verbose"] =
      .ok (.distribute { total := 1000, verbose := true }) := rfl
  obtain ⟨quiet, loud, hrun, hloudRun, hadds, -⟩ :=
    (verbose_adds_record_iff
      ⟨Disk.empty, ⟨⟨2024, 1, 2⟩, 3, 4, 5, 0, none⟩⟩ []).2 hwords rfl hloud
  refine ⟨quiet, loud, hrun, hloudRun, hadds.mpr ?_⟩
  intro config hconfig _ _
  cases hconfig
  decide

/-- Below a hexadecimal threshold with too many digits for base ten, the command fails if it is
asked for records, and only then. -/
theorem exitCodes_of_long_threshold {around : Surroundings}
    {digits : List Char} (hdigits : Yaml.IsHexadecimal digits)
    (hhost : around.host = Config.thresholdDisk digits)
    (hlong : ¬Decimal.Writable (Decimal.natural 16 digits)) :
    ∃ quiet loud,
      (runOnce around .off
        ["distribute", "1000", "--config", "config.yaml"]).1 = .ok quiet ∧
      (runOnce around .off
        ["distribute", "1000", "--config", "config.yaml", "--verbose"]).1 =
          .ok loud ∧
      quiet.exitCode = 0 ∧ loud.exitCode = 1 := by
  let request : SplitRequest :=
    { total := 1000, config := some "config.yaml" }
  have hwords : Invocation.ofWords
      ["distribute", "1000", "--config", "config.yaml"] =
        .ok (.distribute request) := rfl
  have hloud : Invocation.ofWords
      ["distribute", "1000", "--config", "config.yaml", "--verbose"] =
        .ok (.distribute request.loud) := rfl
  have hload := Config.load_thresholdDisk hdigits
  rw [← hhost] at hload
  have hconfig : Report.configAt around.host request.config =
      .ok (Config.ofThreshold (Decimal.natural 16 digits)) := hload
  have hnot : ¬request.Recordable around.host := by
    intro hrecordable
    refine hlong (hrecordable _ hconfig (by decide) (Int.not_le.mp ?_))
    intro hle
    have hthreshold : Decimal.natural 16 digits ≤ 1000 := Int.ofNat_le.mp hle
    have hthousand : Decimal.Writable (1000 : Nat) := by decide
    exact hlong (hthousand.mono hthreshold)
  obtain ⟨-, -, -, -, hreports⟩ :=
    reports_of_not_recordable around hwords hnot
  refine ⟨_, _, runOnce_distribute hwords around .off,
    runOnce_distribute hloud around .off, ?_, hreports.exitCode⟩
  rw [Report.distribute_off rfl hconfig]
  exact Report.exitCode_unrecorded around.now _ (by decide) (by decide)

theorem exitCode_verbose_long_threshold :
    ∃ quiet loud,
      (runOnce ⟨Config.thresholdDisk ('1' :: List.replicate 3572 '0'),
          ⟨⟨2024, 1, 2⟩, 3, 4, 5, 0, none⟩⟩ .off
        ["distribute", "1000", "--config", "config.yaml"]).1 = .ok quiet ∧
      (runOnce ⟨Config.thresholdDisk ('1' :: List.replicate 3572 '0'),
          ⟨⟨2024, 1, 2⟩, 3, 4, 5, 0, none⟩⟩ .off
        ["distribute", "1000", "--config", "config.yaml", "--verbose"]).1 =
          .ok loud ∧
      quiet.exitCode = 0 ∧ loud.exitCode = 1 := by
  have hdigits := Yaml.isHexadecimal_one_zeros 3572
  have hlong : ¬Decimal.Writable
      (Decimal.natural 16 ('1' :: List.replicate 3572 '0')) := by
    rw [Yaml.natural_one_zeros, Decimal.writable_iff]
    decide +kernel
  exact exitCodes_of_long_threshold hdigits rfl hlong

end TokenSplit.CommandLine
