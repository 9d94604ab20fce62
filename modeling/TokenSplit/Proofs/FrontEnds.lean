import TokenSplit.Proofs.Client
import TokenSplit.Proofs.CommandLine.Distribute

/-!
# The front ends agree

The command, the client and the library report a count in code of their own.  Whatever the
configuration, the command succeeds exactly if the library reports a usage and shows that usage,
and a chat ends with that usage or with the very fault.
-/

namespace TokenSplit

open CommandLine
open CommandLine.Report (outputValue)

namespace Client

/-- A response with both counts is completed by allocating the first and reporting both. -/
theorem complete_of_counts (c : Client) {r : Ratio} (hratio : c.ratio = r)
    {response : Response} {kind : String} {prompt completion : Value}
    (hreported :
      response.reported = .counted kind (some prompt) (some completion)) :
    (c.complete response).result = (do
      let split ← (r.allocate prompt).result
      let usage ← (r.report prompt completion c.omitEmpty).result
      return ⟨response, split, usage⟩) := by
  have hprompt : response.reported.prompt? = some prompt := by
    rw [hreported]
    rfl
  have hcompletion : response.reported.completion = .ok completion := by
    rw [hreported]
    rfl
  rw [c.complete_of_prompt hprompt, hratio, hcompletion]
  simp only [Basis.toRatio, allocateBy, Ratio.report, Logged.result_bind]
  cases (r.allocate prompt).result with
  | error fault => rfl
  | ok split => rfl

theorem outcome_chat (c : Client) {request : Request}
    (hmessages : request.messages.isTrue) (response : Response) :
    (c.chat request (.response response)).outcome = c.complete response := by
  simp [chat, hmessages]

/-- A client of a configuration ends a chat as the library reports the counts of the response. -/
theorem chat_agrees {model : Value} {config : Config} {client : Client}
    (hclient :
      Client.create model config.ratio config.omitEmpty = .ok client)
    {request : Request} (hmessages : request.messages.isTrue)
    {response : Response} {kind : String} {total : Int} {output : Option Int}
    (hreported : response.reported =
      .counted kind (some (.int total)) (some (outputValue output))) :
    (∀ fault, config.reported total output = .error fault →
      (client.chat request (.response response)).outcome.result =
        .error fault) ∧
    (∀ usage, config.reported total output = .ok usage →
      ∃ split,
        (config.ratio.allocate (.int total)).result = .ok split ∧
        (client.chat request (.response response)).outcome.result =
          .ok ⟨response, split, usage⟩) := by
  have hcreated := eq_of_create hclient
  have hcomplete : (client.complete response).result = (do
      let split ← (config.ratio.allocate (.int total)).result
      let usage ← config.reported total output
      return ⟨response, split, usage⟩) := by
    rw [hcreated]
    exact complete_of_counts _ rfl hreported
  have hreport : config.reported total output = (do
      let split ← (config.ratio.allocate (.int total)).result
      split.breakdown.usage (outputValue output) config.omitEmpty) := by
    simp only [Config.reported, Ratio.report, Logged.result_bind,
      Logged.result_liftM]
  rw [client.outcome_chat hmessages, hcomplete]
  cases hsplit : (config.ratio.allocate (.int total)).result with
  | error fault =>
      rw [hsplit] at hreport
      rw [hreport]
      constructor
      · intro other hother
        cases hother
        rfl
      · intro usage husage
        cases husage
  | ok split =>
      constructor
      · intro fault hfault
        rw [hfault]
        rfl
      · intro usage husage
        rw [husage]
        exact ⟨split, rfl, rfl⟩

end Client

/-- The command shows the usage that the library reports, or fails if it reports none. -/
theorem command_agrees (host : Host) (now : Moment) {words : List String}
    {request : SplitRequest} {config : Config}
    (hwords : Invocation.ofWords words = .ok (.distribute request))
    (hquiet : request.verbose = false)
    (hconfig : Report.configAt host request.config = .ok config) :
    ∃ transcript,
      (runOnce ⟨host, now⟩ .off words).1 = .ok transcript ∧
      (∀ fault, config.reported request.total request.output = .error fault →
        transcript.exitCode = 1) ∧
      (∀ usage, config.reported request.total request.output = .ok usage →
        transcript.exitCode = 0 ∧
        (request.json →
          (∃ line, transcript.lines = [line] ∧ '\n' ∉ line) ∧
          transcript.Shows usage)) := by
  have hoff : request.recording .off = .off :=
    (request.recording_eq_off_iff .off).mpr ⟨rfl, hquiet⟩
  have hrecord :
      (request.recording .off).record
          (config.ratio.allocate (.int request.total)).log =
        .ok ([], .off) := by
    rw [hoff, Recording.record_off]
  have hreport := Report.distribute_of_config hconfig hrecord
  refine ⟨_, runOnce_distribute hwords ⟨host, now⟩ .off, ?_, ?_⟩
  · intro fault hfault
    rw [Config.reported] at hfault
    rw [hreport, hfault]
    exact Report.transcript_failure now [] fault
  · intro usage husage
    rw [Config.reported] at husage
    rw [hreport, husage]
    refine ⟨Report.exitCode_usagePieces now request config.ratio usage, ?_⟩
    intro hjson
    obtain ⟨fields, rfl⟩ :=
      config.ratio.exists_fields_of_report husage
    simp only [List.nil_append, Report.usagePieces, hjson, if_true,
      Report.transcript_document]
    exact ⟨⟨_, rfl, Json.newline_not_mem_print _⟩,
      Transcript.shows_of_lines rfl⟩

/-- For a configuration that is found, a command that records nothing ends with code zero exactly
if the library reports a usage, which is exactly if neither the count nor the output is below
zero, and with code one otherwise; with a document asked for, the document of that usage is its
one line.  A client of the configuration that is told the same counts ends its chat with that
usage and the split of the library, or with the fault of the library. -/
theorem frontEnds_agree (host : Host) (now : Moment) {words : List String}
    {request : SplitRequest} {config : Config}
    (hwords : Invocation.ofWords words = .ok (.distribute request))
    (hquiet : request.verbose = false)
    (hconfig : Report.configAt host request.config = .ok config) :
    ((∃ usage, config.reported request.total request.output = .ok usage) ↔
      0 ≤ request.total ∧ ∀ n ∈ request.output, 0 ≤ n) ∧
    (∃ transcript,
      (runOnce ⟨host, now⟩ .off words).1 = .ok transcript ∧
      (∀ fault, config.reported request.total request.output = .error fault →
        transcript.exitCode = 1) ∧
      (∀ usage, config.reported request.total request.output = .ok usage →
        transcript.exitCode = 0 ∧
        (request.json →
          (∃ line, transcript.lines = [line] ∧ '\n' ∉ line) ∧
          transcript.Shows usage))) ∧
    ∀ (model : Value) (client : Client) (asked : Request)
      (response : Response) (kind : String),
      Client.create model config.ratio config.omitEmpty = .ok client →
      asked.messages.isTrue →
      response.reported =
        .counted kind (some (.int request.total))
          (some (outputValue request.output)) →
      (∀ fault, config.reported request.total request.output = .error fault →
        (client.chat asked (.response response)).outcome.result =
          .error fault) ∧
      (∀ usage, config.reported request.total request.output = .ok usage →
        ∃ split,
          (config.ratio.allocate (.int request.total)).result = .ok split ∧
          (client.chat asked (.response response)).outcome.result =
            .ok ⟨response, split, usage⟩) := by
  refine ⟨config.ratio.exists_report_iff request.total request.output
    config.omitEmpty, command_agrees host now hwords hquiet hconfig, ?_⟩
  intro model client asked response kind hclient hmessages hreported
  exact Client.chat_agrees hclient hmessages hreported

theorem frontEnds_agree_thousand :
    let response : Response :=
      ⟨.text "id",
        .counted "CompletionUsage" (some (.int 1000)) (some (.int 5))⟩
    let usage : Usage :=
      .ofIntegers [("input_tokens", 35), ("cache_creation_input_tokens", 71),
        ("cache_read_input_tokens", 894), ("output_tokens", 5)]
    (∃ transcript,
      (runOnce ⟨Disk.empty, ⟨⟨2024, 1, 2⟩, 3, 4, 5, 0, none⟩⟩ .off
        ["distribute", "1000", "-o", "5", "--json"]).1 = .ok transcript ∧
      transcript.exitCode = 0 ∧ transcript.Shows usage) ∧
    ((⟨.text "model", Ratio.standard, .bool true⟩ : Client).chat
      { messages := .list [.text "hello"] }
      (.response response)).outcome.result =
        .ok ⟨response, ⟨35, 71, 894⟩, usage⟩ := by
  intro response usage
  have hwords : Invocation.ofWords ["distribute", "1000", "-o", "5", "--json"] =
      .ok (.distribute { total := 1000, output := some 5, json := true }) := rfl
  have husage : Config.standard.reported 1000 (some 5) = .ok usage := rfl
  have hconfig : Report.configAt Disk.empty none = .ok Config.standard := rfl
  obtain ⟨-, ⟨transcript, hrun, -, hshown⟩, hchat⟩ :=
    frontEnds_agree Disk.empty ⟨⟨2024, 1, 2⟩, 3, 4, 5, 0, none⟩ hwords rfl
      hconfig
  obtain ⟨hexit, hjson⟩ := hshown _ husage
  obtain ⟨split, hsplit, houtcome⟩ :=
    (hchat (.text "model") _ { messages := .list [.text "hello"] }
      response "CompletionUsage" rfl rfl rfl).2 _ husage
  have hsplit : split = ⟨35, 71, 894⟩ := (Except.ok.inj hsplit).symm
  rw [hsplit] at houtcome
  exact ⟨⟨transcript, hrun, hexit, (hjson rfl).2⟩, houtcome⟩

end TokenSplit
