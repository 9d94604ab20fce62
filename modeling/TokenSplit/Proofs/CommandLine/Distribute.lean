import TokenSplit.Proofs.CommandLine.Transcript

/-!
# What the command that splits a count comes to

The command loads the configuration, splits the count, records the event and reports the usage in
steps of its own.  Where the configuration is found and the event recorded, the steps come to
reporting in one go.
-/

namespace TokenSplit.CommandLine

namespace Recording

theorem record_off (events : List Event) :
    record .off events = .ok ([], .off) := by
  cases events <;> rfl

theorem record_single {recording after : Recording} {event : Event}
    {records : List Piece} (hon : recording ≠ .off)
    (hrecord : recording.record [event] = .ok (records, after)) :
    records = [.record event (decide (recording = .untimed))] := by
  cases recording with
  | off => exact absurd rfl hon
  | untimed | timed =>
      simp only [record] at hrecord
      split at hrecord
      · simp at hrecord
      · cases hrecord
        rfl

section

variable {recording : Recording} (hon : recording ≠ .off) {event : Event}

include hon

theorem record_worded (hworded : event.text?.isSome) :
    recording.record [event] =
      .ok ([.record event (decide (recording = .untimed))], .timed) := by
  have hnone : event.text?.isNone = false := by
    rw [← Option.not_isSome, hworded]
    rfl
  cases recording with
  | off => exact absurd rfl hon
  | untimed | timed =>
      simp only [record, hnone]
      rfl

/-- An event without a wording cannot be recorded. -/
theorem record_not_worded (hworded : ¬event.text?.isSome) :
    recording.record [event] = .error .numeralTooLong := by
  have hnone : event.text?.isNone = true := by
    rw [← Option.not_isSome, Bool.not_eq_true']
    exact Bool.eq_false_iff.mpr hworded
  cases recording with
  | off => exact absurd rfl hon
  | untimed | timed => simp only [record, hnone, if_true]

end

theorem exists_record {recording : Recording} {event : Event}
    (hworded : recording = .off ∨ event.text?.isSome) :
    ∃ records after, recording.record [event] = .ok (records, after) := by
  by_cases hoff : recording = .off
  · rw [hoff, record_off]
    exact ⟨_, _, rfl⟩
  · exact ⟨_, _, record_worded hoff (hworded.resolve_left hoff)⟩

end Recording

/-- The recording while a request is done. -/
def SplitRequest.recording (request : SplitRequest) (before : Recording) :
    Recording :=
  if request.verbose then before.turnOn else before

theorem SplitRequest.recording_eq_off_iff (request : SplitRequest)
    (before : Recording) :
    request.recording before = .off ↔
      before = .off ∧ request.verbose = false := by
  cases hverbose : request.verbose <;> cases before <;>
    simp [recording, hverbose, Recording.turnOn]

namespace Report

/-- What is shown of a usage that could be reported. -/
def usagePieces (request : SplitRequest) (ratio : Ratio) (usage : Usage) :
    List Piece :=
  if request.json then [.document usage]
  else splitPieces (ratio.split request.total.toNat) request.output

theorem usagePieces_eq_splitPieces {request : SplitRequest}
    (hjson : request.json = false) (ratio : Ratio) (usage : Usage) :
    usagePieces request ratio usage =
      splitPieces (ratio.split request.total.toNat) request.output := by
  rw [usagePieces, hjson]
  rfl

/-- A usage can always be shown. -/
theorem exitCode_usagePieces (now : Moment) (request : SplitRequest)
    (ratio : Ratio) (usage : Usage) :
    (Report.transcript now
      ⟨usagePieces request ratio usage, false⟩).exitCode = 0 := by
  simp only [usagePieces, splitPieces]
  split
  · rfl
  split
  · rfl
  · rfl

/-- Where the configuration is found and what happens is recorded, the command shows the usage
that is reported, or the fault in its place. -/
theorem distribute_of_config {host : Host} {before after : Recording}
    {request : SplitRequest} {config : Config} {records : List Piece}
    (hconfig : configAt host request.config = .ok config)
    (hrecord :
      (request.recording before).record
          (config.ratio.allocate (.int request.total)).log =
        .ok (records, after)) :
    (distribute host before request).1 =
      match (config.ratio.report (.int request.total)
          (outputValue request.output) config.omitEmpty).result with
      | .error fault => failure records fault
      | .ok usage =>
        ⟨records ++ usagePieces request config.ratio usage, false⟩ := by
  simp only [SplitRequest.recording] at hrecord
  by_cases htotal : request.total < 0
  · have hfault := Value.tokens_int_of_neg htotal
    rw [config.ratio.report_of_fault hfault]
    rw [config.ratio.allocate_of_fault hfault] at hrecord
    simp only [distribute, hconfig, config.ratio.allocate_of_fault hfault,
      hrecord]
  · have htokens := Value.tokens_int_of_nonneg (Int.not_lt.mp htotal)
    rw [config.ratio.report_of_tokens htokens]
    rw [config.ratio.allocate_of_tokens htokens] at hrecord
    cases husage : (config.ratio.split request.total.toNat).breakdown.usage
        (outputValue request.output) config.omitEmpty with
    | error fault =>
        simp only [distribute, hconfig,
          config.ratio.allocate_of_tokens htokens, hrecord, husage]
    | ok usage =>
        simp only [distribute, hconfig,
          config.ratio.allocate_of_tokens htokens, hrecord, husage,
          usagePieces]
        cases request.json with
        | false => rfl
        | true => rfl

/-- A count and an output that are not below zero are shown behind whatever is recorded. -/
theorem distribute_of_recorded {host : Host} {before after : Recording}
    {request : SplitRequest} {config : Config} {records : List Piece}
    (hconfig : configAt host request.config = .ok config)
    (htotal : 0 ≤ request.total) (houtput : ∀ n ∈ request.output, 0 ≤ n)
    (hrecord : (request.recording before).record
      [config.ratio.event request.total.toNat] = .ok (records, after)) :
    (distribute host before request).1 =
      ⟨records ++ usagePieces request config.ratio
          (.ofIntegers ((config.ratio.split request.total.toNat).fields
            request.output config.omitEmpty)), false⟩ := by
  have htokens := Value.tokens_int_of_nonneg htotal
  have hlog : (request.recording before).record
      (config.ratio.allocate (.int request.total)).log =
        .ok (records, after) := by
    rw [config.ratio.allocate_of_tokens htokens]
    exact hrecord
  rw [distribute_of_config hconfig hlog, config.ratio.report_of_tokens htokens,
    Split.usage_of_nonneg _ houtput]

/-- The command fails, or it shows the usage that is reported behind the record of it. -/
theorem distribute_cases (host : Host) (before : Recording)
    (request : SplitRequest) :
    (∃ pieces fault,
      (distribute host before request).1 = failure pieces fault) ∨
    (∃ config usage records after,
      configAt host request.config = .ok config ∧
      (config.ratio.report (.int request.total)
        (outputValue request.output) config.omitEmpty).result = .ok usage ∧
      (request.recording before).record
          (config.ratio.allocate (.int request.total)).log =
        .ok (records, after) ∧
      (distribute host before request).1 =
        ⟨records ++ usagePieces request config.ratio usage, false⟩) := by
  cases hconfig : configAt host request.config with
  | error fault => exact .inl ⟨[], fault, by simp only [distribute, hconfig]⟩
  | ok config =>
      cases hrecord : (request.recording before).record
          (config.ratio.allocate (.int request.total)).log with
      | error fault =>
          refine .inl ⟨[], fault, ?_⟩
          simp only [SplitRequest.recording] at hrecord
          simp only [distribute, hconfig, hrecord]
      | ok recorded =>
          obtain ⟨records, after⟩ := recorded
          have hdistribute := distribute_of_config hconfig hrecord
          cases husage : (config.ratio.report (.int request.total)
              (outputValue request.output) config.omitEmpty).result with
          | error fault =>
              rw [husage] at hdistribute
              exact .inl ⟨records, fault, hdistribute⟩
          | ok usage =>
              rw [husage] at hdistribute
              exact .inr ⟨config, usage, records, after, rfl, husage, hrecord,
                hdistribute⟩

end Report

/-- A command line that asks for a split leaves the transcript of its report. -/
theorem runOnce_distribute {words : List String} {request : SplitRequest}
    (hwords : Invocation.ofWords words = .ok (.distribute request))
    (around : Surroundings) (before : Recording) :
    (runOnce around before words).1 =
      .ok ((Report.distribute around.host before request).1.transcript
        around.now) := by
  simp only [runOnce, hwords, Invocation.run]

end TokenSplit.CommandLine
