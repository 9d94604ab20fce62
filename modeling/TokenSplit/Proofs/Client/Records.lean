import TokenSplit.Proofs.Allocation.Acceptance
import TokenSplit.Proofs.FrontEnds
import TokenSplit.Proofs.Value.Text

/-!
# What the log tells of a chat

How far a chat went can be read in its log.  A chat that ends before the usage of a response is
split leaves no record, unless the usage is missing: that leaves one warning.  From the split on
there is the record of the split and, if the usage has completion tokens that can stand for an
integer, that of the response.  A fault after that, which only the completion tokens can cause,
takes no record back.
-/

namespace TokenSplit

/-- The counts that a usage has can be written. -/
structure Reported.Writable (u : Reported) : Prop where
  prompt : ∀ v, u.prompt? = some v → v.Writable
  completion : ∀ v, u.completion? = some v → v.Writable

/-- What is recorded of a reply can be written. -/
def Reply.Writable : Reply → Prop
  | .failure _ => True
  | .response r => r.id.Writable ∧ r.reported.Writable

namespace Value

theorem CountsAs.integerPart?_eq {v : Value} {n : Int} (hv : v.CountsAs n) :
    v.integerPart? = some n := by
  cases hv <;> rfl

theorem tokens_ne_usageMissing (v : Value) : v.tokens ≠ .error .usageMissing := by
  intro h
  rcases v.tokens_cases with
    ⟨_, _, _, hv⟩ | ⟨_, _, _, hv⟩ | ⟨_, fault, hfamily, hv⟩
  · rw [hv] at h
    cases h
  · rw [hv] at h
    cases h
  · rw [hv] at h
    cases h
    cases hfamily

end Value

namespace Split

/-- A usage that cannot be reported is not missing. -/
theorem usage_ne_usageMissing (s : Split) (output omitEmpty : Value) :
    s.breakdown.usage output omitEmpty ≠ .error .usageMissing := by
  have hnegative : output.isNegative ≠ .error .usageMissing := by
    unfold Value.isNegative
    split
    · nofun
    · split <;> nofun
    · nofun
  have hchecked : checkOutput output ≠ .error .usageMissing := by
    unfold checkOutput
    cases output.isNull with
    | true => nofun
    | false =>
        cases houtput : output.isNegative with
        | error fault =>
            intro hfault
            cases hfault
            exact hnegative houtput
        | ok negative => cases negative <;> nofun
  intro hfault
  rcases bind_eq_error_iff.mp hfault with hfault | ⟨_, _, hfault⟩
  · exact hchecked hfault
  · rw [hasCache_breakdown] at hfault
    cases hfault

end Split

namespace Response

variable {prompt completion : Value}

/-- What is read in the log of a response without a usage. -/
def missingRecord (id : String) : Level × String × String :=
  (.warning, "token_distributor.sdk.openai_client",
    s!"Response {id} has no usage information")

/-- What is read in the log of a response with a usage. -/
def usageRecord (id : String) (prompt : Nat) (completion : Int) :
    Level × String × String :=
  (.debug, "token_distributor.sdk.openai_client",
    s!"Response {id}: {prompt} prompt tokens, {completion} completion tokens")

theorem recordsOf_usageMissing {v : Value} {id : String}
    (hid : v.display? = some id) :
    recordsOf [.usageMissing v] = [missingRecord id] := by
  have htext : (Event.usageMissing v).text? = some (missingRecord id).2.2 := by
    simp only [Event.text?, hid]
    rfl
  exact recordsOf_cons_of_text htext []

theorem recordsOf_response {v : Value} {id : String} {count : Nat} {n : Int}
    (hid : v.display? = some id)
    (hprompt : prompt.integerPart? = some (count : Int))
    (hcount : Decimal.Writable count)
    (hcompletion : completion.integerPart? = some n)
    (hn : Decimal.Writable n) :
    recordsOf [.response v prompt completion] = [usageRecord id count n] := by
  have htext : (Event.response v prompt completion).text? =
      some (usageRecord id count n).2.2 := by
    simp only [Event.text?, hid, Event.numeral?_of_integerPart? hprompt hcount,
      Event.numeral?_of_integerPart? hcompletion hn]
    rfl
  exact recordsOf_cons_of_text htext []

/-- Without a number to write, the record of a response is lost. -/
theorem recordsOf_response_of_none (v prompt : Value)
    (hcompletion : completion.integerPart? = none) :
    recordsOf [.response v prompt completion] = [] := by
  have htext : (Event.response v prompt completion).text? = none := by
    simp [Event.text?, Event.numeral?_of_no_integerPart? hcompletion]
  exact recordsOf_cons_of_none htext []

end Response

namespace Client

/-- A chat ends before its prompt tokens are split: it has no messages, the provider fails, or the
usage has no prompt tokens, or some that cannot be split. -/
inductive EndsEarly (r : Ratio) (request : Request) : Reply → Prop where
  | silent (reply : Reply) (hmessages : request.messages.isTrue = false) :
      EndsEarly r request reply
  | failed (message : String) : EndsEarly r request (.failure message)
  | bare {response : Response} (husage : response.reported.isMissing = false)
      (hprompt : response.reported.prompt? = none) :
      EndsEarly r request (.response response)
  | refused {response : Response} {prompt : Value} {fault : Fault}
      (hprompt : response.reported.prompt? = some prompt)
      (hrefused : (r.allocate prompt).result = .error fault) :
      EndsEarly r request (.response response)

section

variable (c : Client) {response : Response}

theorem complete_of_missing (husage : response.reported.isMissing = true) :
    c.complete response =
      ⟨.error .usageMissing, [.usageMissing response.id]⟩ := by
  simp only [complete, husage]
  rfl

theorem complete_of_bare (husage : response.reported.isMissing = false)
    (hprompt : response.reported.prompt? = none) :
    c.complete response =
      ⟨.error (.noAttribute response.reported.kind "prompt_tokens"), []⟩ := by
  simp only [complete, husage, Reported.prompt, hprompt]
  rfl

variable {r : Ratio} (hratio : c.ratio = r) {prompt : Value}
  (hprompt : response.reported.prompt? = some prompt)

include hratio hprompt

theorem complete_of_fault {fault : Fault}
    (htokens : prompt.tokens = .error fault) :
    c.complete response = ⟨.error fault, []⟩ := by
  rw [c.complete_of_prompt hprompt, hratio, Basis.toRatio, allocateBy,
    r.allocate_of_fault htokens, Logged.error_bind]

variable {count : Nat} (htokens : prompt.tokens = .ok count)

include htokens

theorem complete_of_completion {completion : Value}
    (hcompletion : response.reported.completion? = some completion) :
    c.complete response =
      ⟨((r.split count).breakdown.usage completion c.omitEmpty).map
          fun usage => ⟨response, r.split count, usage⟩,
        [r.event count, .response response.id prompt completion]⟩ := by
  rw [c.complete_of_prompt hprompt, hratio, Basis.toRatio, allocateBy,
    r.allocate_of_tokens htokens, Logged.ok_bind]
  simp only [Reported.completion, hcompletion, Logged.liftM_ok_bind]
  cases (r.split count).breakdown.usage completion c.omitEmpty <;> rfl

/-- The completion tokens are missed only once the prompt tokens are split. -/
theorem complete_of_no_completion
    (hcompletion : response.reported.completion? = none) :
    c.complete response =
      ⟨.error (.noAttribute response.reported.kind "completion_tokens"),
        [r.event count]⟩ := by
  rw [c.complete_of_prompt hprompt, hratio, Basis.toRatio, allocateBy,
    r.allocate_of_tokens htokens, Logged.ok_bind]
  simp only [Reported.completion, hcompletion]
  rfl

end

section

variable (c : Client) {r : Ratio} (request : Request) (reply : Reply)

/-- A chat that ends early fails and leaves nothing in the log. -/
theorem outcome_of_endsEarly (hratio : c.ratio = r)
    (hearly : EndsEarly r request reply) :
    ∃ fault, fault ≠ .usageMissing ∧
      (c.chat request reply).outcome = ⟨.error fault, []⟩ := by
  by_cases hmessages : request.messages.isTrue
  · cases hearly with
    | silent _ hsilent =>
        rw [hmessages] at hsilent
        cases hsilent
    | failed message =>
        refine ⟨.provider message, Fault.noConfusion, ?_⟩
        simp only [chat, hmessages]
        rfl
    | bare husage hprompt =>
        rw [c.outcome_chat hmessages]
        exact ⟨.noAttribute _ "prompt_tokens", Fault.noConfusion,
          c.complete_of_bare husage hprompt⟩
    | @refused response prompt fault hprompt hrefused =>
        rw [c.outcome_chat hmessages]
        cases htokens : prompt.tokens with
        | ok count =>
            rw [r.allocate_of_tokens htokens] at hrefused
            cases hrefused
        | error fault =>
            refine ⟨fault, ?_, c.complete_of_fault hratio hprompt htokens⟩
            rintro rfl
            exact prompt.tokens_ne_usageMissing htokens
  · rw [Bool.not_eq_true] at hmessages
    refine ⟨.messagesMissing, Fault.noConfusion, ?_⟩
    simp only [chat, hmessages]
    rfl

/-- A chat ends early, or its usage is missing, or its prompt tokens are split. -/
theorem outcome_cases (r : Ratio) :
    EndsEarly r request reply ∨
    (∃ response, reply = .response response ∧
      (c.chat request reply).outcome =
        ⟨.error .usageMissing, [.usageMissing response.id]⟩) ∨
    (∃ response prompt count,
      reply = .response response ∧
      response.reported.prompt? = some prompt ∧
      prompt.tokens = .ok count ∧
      (c.chat request reply).outcome = c.complete response) := by
  by_cases hmessages : request.messages.isTrue
  · cases reply with
    | failure message => exact .inl (.failed message)
    | response response =>
        rw [c.outcome_chat hmessages]
        cases husage : response.reported.isMissing with
        | true =>
            exact .inr (.inl ⟨response, rfl, c.complete_of_missing husage⟩)
        | false =>
            cases hprompt : response.reported.prompt? with
            | none => exact .inl (.bare husage hprompt)
            | some prompt =>
                cases htokens : prompt.tokens with
                | ok count =>
                    exact .inr (.inr ⟨response, prompt, count, rfl, hprompt,
                      htokens, rfl⟩)
                | error fault =>
                    have hrefused :
                        (r.allocate prompt).result = .error fault := by
                      rw [r.allocate_of_fault htokens]
                    exact .inl (.refused hprompt hrefused)
  · rw [Bool.not_eq_true] at hmessages
    exact .inl (.silent reply hmessages)

end

section

variable (c : Client) {r : Ratio} (hratio : c.ratio = r)

include hratio

/-- What is recorded of a response whose prompt tokens are split, and when that ends well. -/
theorem records_complete (hthreshold : Decimal.Writable r.threshold)
    {response : Response} {prompt : Value} {count : Nat} {id : String}
    (hid : response.id.display? = some id)
    (hwritable : response.reported.Writable)
    (hprompt : response.reported.prompt? = some prompt)
    (htokens : prompt.tokens = .ok count) :
    (c.complete response).result ≠ .error .usageMissing ∧
    ((∃ done, (c.complete response).result = .ok done) ↔
      ∃ completion, response.reported.completion? = some completion ∧
        completion.IsOutput) ∧
    ∃ later,
      (c.complete response).records =
        r.record count (r.split count) :: later ∧
      (∀ completion, response.reported.completion? = some completion →
        completion.IsNumber → ∃ n, completion.integerPart? = some n ∧
          later = [Response.usageRecord id count n]) ∧
      ((∀ completion, response.reported.completion? = some completion →
        ¬completion.IsNumber) → later = []) := by
  have hpart := (Value.countsAs_of_tokens htokens).integerPart?_eq
  -- prompt tokens that are split can be written, so only the completion tokens decide
  have hcount := (hwritable.prompt prompt hprompt).integerPart? hpart
  cases hcompletion : response.reported.completion? with
  | none =>
      rw [c.complete_of_no_completion hratio hprompt htokens hcompletion]
      refine ⟨?_, iff_of_false ?_ ?_, [], ?_, ?_, fun _ => rfl⟩
      · rintro ⟨⟩
      · rintro ⟨done, ⟨⟩⟩
      · rintro ⟨completion, ⟨⟩, -⟩
      · exact r.recordsOf_cons_event hcount hthreshold []
      · rintro completion ⟨⟩
  | some completion =>
      have hcan := hwritable.completion completion hcompletion
      rw [c.complete_of_completion hratio hprompt htokens hcompletion]
      refine ⟨?_, ?_, _, r.recordsOf_cons_event hcount hthreshold _, ?_, ?_⟩
      · intro hfault
        exact Split.usage_ne_usageMissing _ _ _ (map_eq_error_iff.mp hfault)
      · rw [exists_map_eq_ok_iff, Split.exists_usage_iff]
        constructor
        · intro houtput
          exact ⟨completion, rfl, houtput⟩
        · rintro ⟨_, ⟨⟩, houtput⟩
          exact houtput
      · rintro _ ⟨⟩ hnumber
        obtain ⟨n, hn⟩ := Option.isSome_iff_exists.mp
          ((completion.isSome_integerPart?_iff).mpr hnumber)
        exact ⟨n, hn, Response.recordsOf_response hid hpart hcount hn
          (hcan.integerPart? hn)⟩
      · intro hnumber
        have hnone := Option.not_isSome_iff_eq_none.mp
          (mt completion.isSome_integerPart?_iff.mp (hnumber completion rfl))
        exact Response.recordsOf_response_of_none _ _ hnone

variable (request : Request) {reply : Reply} (hreply : reply.Writable)

include hreply

/-- What the log of a chat tells, for each way that a chat can go. -/
theorem records_cases :
    (EndsEarly r request reply ∧
      (c.chat request reply).outcome.result ≠ .error .usageMissing ∧
      (c.chat request reply).outcome.records = []) ∨
    (∃ response id,
      reply = .response response ∧ response.id.display? = some id ∧
      (c.chat request reply).outcome.result = .error .usageMissing ∧
      (c.chat request reply).outcome.records =
        [Response.missingRecord id]) ∨
    (∃ response prompt count id,
      reply = .response response ∧ response.id.display? = some id ∧
      response.reported.Writable ∧
      response.reported.prompt? = some prompt ∧
      prompt.tokens = .ok count ∧
      (c.chat request reply).outcome = c.complete response) := by
  rcases c.outcome_cases request reply r with
    hearly | ⟨response, rfl, houtcome⟩ |
      ⟨response, prompt, count, rfl, hprompt, htokens, houtcome⟩
  · obtain ⟨fault, hfault, houtcome⟩ :=
      c.outcome_of_endsEarly request reply hratio hearly
    refine .inl ⟨hearly, ?_, ?_⟩
    · rw [houtcome]
      rintro ⟨⟩
      exact hfault rfl
    · rw [houtcome]
      rfl
  · obtain ⟨id, hid⟩ := hreply.1.exists_display?
    refine .inr (.inl ⟨response, id, rfl, hid, ?_, ?_⟩)
    · rw [houtcome]
    · rw [houtcome]
      exact Response.recordsOf_usageMissing hid
  · obtain ⟨id, hid⟩ := hreply.1.exists_display?
    exact .inr (.inr ⟨response, prompt, count, id, rfl, hid, hreply.2, hprompt,
      htokens, houtcome⟩)

/-- The log tells how far a chat went.  It is empty just for a chat that ends early.  It is one
warning just if the chat fails because the usage is missing, and then the warning names the
response.  Every other chat leaves the record of its split and behind it that of the response, or
nothing behind it where the completion tokens are missing or no number; so does one that then
fails, which it does just if the completion tokens are missing or cannot be an output. -/
theorem chat_records (hthreshold : Decimal.Writable r.threshold) :
    ((c.chat request reply).outcome.records = [] ↔
      EndsEarly r request reply) ∧
    ((∃ record, (c.chat request reply).outcome.records = [record] ∧
        record.1 = .warning) ↔
      (c.chat request reply).outcome.result = .error .usageMissing) ∧
    ((c.chat request reply).outcome.result = .error .usageMissing →
      ∃ response id,
        reply = .response response ∧ response.id.display? = some id ∧
        (c.chat request reply).outcome.records =
          [Response.missingRecord id]) ∧
    (¬EndsEarly r request reply →
      (c.chat request reply).outcome.result ≠ .error .usageMissing →
      ∃ response prompt count split id,
        reply = .response response ∧ response.id.display? = some id ∧
        response.reported.prompt? = some prompt ∧
        prompt.CountsAs (count : Nat) ∧
        (r.allocate prompt).result = .ok split ∧
        ((∃ done, (c.chat request reply).outcome.result = .ok done) ↔
          ∃ completion, response.reported.completion? = some completion ∧
            completion.IsOutput) ∧
        ∃ later,
          (c.chat request reply).outcome.records =
            r.record count split :: later ∧
          (∀ completion, response.reported.completion? = some completion →
            completion.IsNumber → ∃ n, completion.integerPart? = some n ∧
              later = [Response.usageRecord id count n]) ∧
          ((∀ completion, response.reported.completion? = some completion →
            ¬completion.IsNumber) → later = [])) := by
  have hempty : EndsEarly r request reply →
      (c.chat request reply).outcome.records = [] := by
    intro hearly
    obtain ⟨fault, -, houtcome⟩ :=
      c.outcome_of_endsEarly request reply hratio hearly
    rw [houtcome]
    rfl
  rcases c.records_cases hratio request hreply with
    ⟨hearly, hresult, hrecords⟩ |
    ⟨response, id, hresponse, hid, hresult, hrecords⟩ |
    ⟨response, prompt, count, id, hresponse, hid, hwritable, hprompt, htokens,
      houtcome⟩
  · refine ⟨iff_of_true hrecords hearly, iff_of_false ?_ hresult, ?_, ?_⟩
    · rw [hrecords]
      rintro ⟨record, hrecord, -⟩
      cases hrecord
    · exact fun hmissing => absurd hmissing hresult
    · exact fun hother => absurd hearly hother
  · have hearly : ¬EndsEarly r request reply := by
      intro hearly
      rw [hempty hearly] at hrecords
      cases hrecords
    refine ⟨iff_of_false ?_ hearly, iff_of_true ?_ hresult, ?_, ?_⟩
    · rw [hrecords]
      exact List.cons_ne_nil _ _
    · exact ⟨_, hrecords, rfl⟩
    · exact fun _ => ⟨response, id, hresponse, hid, hrecords⟩
    · exact fun _ hother => absurd hresult hother
  · obtain ⟨hresult, hdone, later, hrecords, hlater⟩ :=
      c.records_complete hratio hthreshold hid hwritable hprompt htokens
    rw [← houtcome] at hresult hdone hrecords
    have hearly : ¬EndsEarly r request reply := by
      intro hearly
      rw [hempty hearly] at hrecords
      cases hrecords
    have hsplit : (r.allocate prompt).result = .ok (r.split count) := by
      rw [r.allocate_of_tokens htokens]
    refine ⟨iff_of_false ?_ hearly, iff_of_false ?_ hresult, ?_, ?_⟩
    · rw [hrecords]
      exact List.cons_ne_nil _ _
    · rw [hrecords]
      rintro ⟨record, hrecord, hlevel⟩
      cases hrecord
      cases hlevel
    · exact fun hmissing => absurd hmissing hresult
    · exact fun _ _ => ⟨response, prompt, count, r.split count, id, hresponse,
        hid, hprompt, Value.countsAs_of_tokens htokens, hsplit, hdone, later,
        hrecords, hlater⟩

end

theorem chat_records_output_negative :
    let outcome := (Client.chat ⟨.text "model", Ratio.standard, .bool true⟩
      ⟨.list [.text "a"], .null, .null, []⟩
      (.response ⟨.text "r", .counted "CompletionUsage"
        (some (.index (.int 2800))) (some (.int (-5)))⟩)).outcome
    outcome.records =
      [Ratio.standard.record 2800 ⟨100, 200, 2500⟩,
        Response.usageRecord "r" 2800 (-5)] ∧
    ¬∃ done, outcome.result = .ok done := by
  intro outcome
  let response : Response :=
    ⟨.text "r", .counted "CompletionUsage" (some (.index (.int 2800)))
      (some (.int (-5)))⟩
  have hprompt : Scalar.Writable (.int 2800) :=
    (by decide : Decimal.Writable 2800)
  have hcompletion : Scalar.Writable (.int (-5)) :=
    (by decide : Decimal.Writable (-5))
  have hreply : Reply.Writable (.response response) := by
    refine ⟨.scalar trivial, ?_, ?_⟩
    · rintro _ ⟨⟩
      exact .index (.scalar hprompt)
    · rintro _ ⟨⟩
      exact .scalar hcompletion
  obtain ⟨-, -, -, hsplit⟩ :=
    chat_records ⟨.text "model", Ratio.standard, .bool true⟩ rfl
      ⟨.list [.text "a"], .null, .null, []⟩ hreply (by decide)
  have hresult : outcome.result = .error .outputNegative := rfl
  have hmissing : outcome.result ≠ .error .usageMissing := by
    rw [hresult]
    rintro ⟨⟩
  have hearly : ¬EndsEarly Ratio.standard
      ⟨.list [.text "a"], .null, .null, []⟩ (.response response) := by
    rintro (⟨-, hmessages⟩ | ⟨⟩ | ⟨-, hbare⟩ | ⟨hgiven, hrefused⟩)
    · cases hmessages
    · cases hbare
    · cases hgiven
      cases hrefused
  obtain ⟨other, prompt, count, split, id, hresponse, hid, hgiven, hcounts,
    hallocate, hdone, later, hrecords, hnumber, -⟩ := hsplit hearly hmissing
  cases hresponse
  cases hgiven
  cases hid
  have hcount : count = 2800 :=
    Int.ofNat.inj (hcounts.unique (.index 2800))
  cases hcount
  cases hallocate
  obtain ⟨n, hn, hlater⟩ := hnumber (.int (-5)) rfl trivial
  cases hn
  refine ⟨?_, ?_⟩
  · rw [← hlater]
    exact hrecords
  · intro hok
    obtain ⟨_, ⟨⟩, houtput⟩ := hdone.mp hok
    have houtput : (0 : Int) ≤ -5 := houtput
    exact absurd houtput (by decide)

end Client

end TokenSplit
