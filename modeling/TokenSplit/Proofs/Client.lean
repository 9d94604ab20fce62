import TokenSplit.Client
import TokenSplit.Proofs.Result

/-!
# Runs of a client

A client does calls one after another.  What comes of a call follows from the call and from what
was last assigned before it: chats leave no trace in the client, whether they end with a response
or with a fault.  The provider is asked once for every chat that has messages, in the order of the
calls, and never otherwise.
-/

namespace TokenSplit

namespace Call

/-- The model that a call assigns. -/
def model? : Call → Option Value
  | .setModel value => some value
  | _ => none

/-- What a call assigns as the ratio. -/
def ratio? : Call → Option Basis
  | .setRatio basis => some basis
  | _ => none

/-- The flag that a call assigns. -/
def omission? : Call → Option Value
  | .setOmission value => some value
  | _ => none

/-- What a call asks of the provider, which is nothing unless it is a chat with messages. -/
def asked? : Call → Option Request
  | .chat request _ => if request.messages.isTrue then some request else none
  | _ => none

end Call

namespace Request

/-- The keywords that every request has. -/
def keywords : List String :=
  ["model", "messages", "temperature", "max_tokens"]

/-- What is sent carries a model and a request: each keyword once, those of the request's own
unchanged behind the others. -/
structure CarriedBy (request : Request) (model : Value)
    (sent : List (String × Value)) : Prop where
  keywords : sent.map (·.1) = keywords ++ request.extra.map (·.1)
  model : sent.lookup "model" = some model
  messages : sent.lookup "messages" = some request.messages
  temperature : sent.lookup "temperature" = some request.temperature
  maxTokens : sent.lookup "max_tokens" = some request.maxTokens
  extra : ∀ keyword ∈ request.extra.map (·.1),
    sent.lookup keyword = request.extra.lookup keyword

end Request

/-- What the provider is sent for an effect. -/
def Effect.sent? : Effect → Option (List (String × Value))
  | .assigned _ => none
  | .exchanged exchange => exchange.sent

namespace Client

/-- The client with every attribute as it is last assigned by some of the calls, or as it was. -/
def assigned (c : Client) (calls : List Call) : Client where
  model := (calls.filterMap Call.model?).getLastD c.model
  ratio := (calls.filterMap Call.ratio?).getLastD c.ratio
  omitEmpty := (calls.filterMap Call.omission?).getLastD c.omitEmpty

/-- The client after calls. -/
def after (c : Client) (calls : List Call) : Client :=
  calls.foldl (fun c call => (c.call call).1) c

/-- What the provider is sent during calls, in order. -/
def sent (c : Client) (calls : List Call) : List (List (String × Value)) :=
  (c.run calls).filterMap Effect.sent?

/-- What is asked of the provider during calls, in order, each with the client as last assigned
before the call. -/
def asked (c : Client) (calls : List Call) : List (Client × Request) :=
  (List.range calls.length).filterMap fun i =>
    (calls[i]?.bind Call.asked?).map (c.assigned (calls.take i), ·)

/-- A call changes what it assigns, and a chat changes nothing. -/
theorem assigned_cons (c : Client) (call : Call) (calls : List Call) :
    c.assigned (call :: calls) = (c.call call).1.assigned calls := by
  cases call with
  | chat request reply => rfl
  | _ =>
      simp only [assigned, Client.call, Call.model?, Call.ratio?,
        Call.omission?, List.filterMap_cons, List.getLastD_cons]

theorem after_eq_assigned (c : Client) (calls : List Call) :
    c.after calls = c.assigned calls := by
  induction calls generalizing c with
  | nil => rfl
  | cons call calls ih =>
      rw [assigned_cons, ← ih]
      rfl

theorem run_append (c : Client) (calls later : List Call) :
    c.run (calls ++ later) = c.run calls ++ (c.assigned calls).run later := by
  induction calls generalizing c with
  | nil => rfl
  | cons call calls ih =>
      rw [List.cons_append, run, run, ih, assigned_cons, List.cons_append]

/-- The effect of a call is its effect on the client as last assigned before. -/
theorem getElem?_run (c : Client) (calls : List Call) (i : Nat) :
    (c.run calls)[i]? =
      calls[i]?.map fun call =>
        ((c.assigned (calls.take i)).call call).2 := by
  induction calls generalizing c i with
  | nil => rfl
  | cons call calls ih =>
      cases i with
      | zero => rfl
      | succ i =>
          rw [run, List.getElem?_cons_succ, List.getElem?_cons_succ, ih,
            List.take_succ_cons, assigned_cons]

theorem sent?_call (c : Client) (call : Call) :
    (c.call call).2.sent? = call.asked?.map c.payload := by
  cases call with
  | chat request reply =>
      cases hmessages : request.messages.isTrue <;>
        simp [Client.call, chat, Effect.sent?, Call.asked?, hmessages]
  | _ => rfl

theorem asked_cons (c : Client) (call : Call) (calls : List Call) :
    c.asked (call :: calls) =
      (call.asked?.map (c, ·)).toList ++ (c.call call).1.asked calls := by
  have hlater (i : Nat) :
      ((call :: calls)[i + 1]?.bind Call.asked?).map
          (c.assigned ((call :: calls).take (i + 1)), ·) =
        (calls[i]?.bind Call.asked?).map
          ((c.call call).1.assigned (calls.take i), ·) := by
    rw [List.getElem?_cons_succ, List.take_succ_cons, assigned_cons]
  have hfirst :
      ((call :: calls)[0]?.bind Call.asked?).map
          (c.assigned ((call :: calls).take 0), ·) =
        call.asked?.map (c, ·) := rfl
  rw [asked, List.length_cons, List.range_succ_eq_map, List.filterMap_cons,
    List.filterMap_map, hfirst]
  simp only [Function.comp_def, hlater]
  cases call.asked? <;> rfl

/-- The provider is sent what is asked of it, once for each time and in the same order. -/
theorem sent_eq_asked (c : Client) (calls : List Call) :
    c.sent calls =
      (c.asked calls).map fun asked => asked.1.payload asked.2 := by
  induction calls generalizing c with
  | nil => rfl
  | cons call calls ih =>
      rw [asked_cons, List.map_append, ← ih, sent, run, List.filterMap_cons,
        sent?_call]
      cases call.asked? <;> rfl

/-- What is sent carries the model of the client and what is asked. -/
theorem carriedBy_payload (c : Client) {request : Request}
    (hextra : ∀ keyword ∈ request.extra.map (·.1),
      keyword ∉ Request.keywords) :
    request.CarriedBy c.model (c.payload request) := by
  refine ⟨by simp [payload, Request.keywords], rfl, rfl, rfl, rfl, ?_⟩
  intro keyword hkeyword
  have hother : ∀ own ∈ Request.keywords, (keyword == own) = false := by
    intro own hown
    have hne : keyword ≠ own := by
      rintro rfl
      exact hextra keyword hkeyword hown
    exact beq_eq_false_iff_ne.mpr hne
  simp only [Request.keywords, List.mem_cons, List.not_mem_nil, or_false,
    forall_eq_or_imp, forall_eq] at hother
  obtain ⟨hmodel, hmessages, htemperature, hmax⟩ := hother
  simp only [payload, List.cons_append, List.nil_append, List.lookup_cons,
    hmodel, hmessages, htemperature, hmax]

theorem mem_of_mem_asked {c : Client} {calls : List Call}
    {asked : Client × Request} (hasked : asked ∈ c.asked calls) :
    ∃ reply, Call.chat asked.2 reply ∈ calls := by
  simp only [Client.asked, List.mem_filterMap, List.mem_range] at hasked
  obtain ⟨i, -, hi⟩ := hasked
  cases hcall : calls[i]? with
  | none => simp [hcall] at hi
  | some call =>
      rw [hcall] at hi
      cases call with
      | chat request reply =>
          simp only [Option.bind_some, Call.asked?] at hi
          split at hi
          · cases hi
            exact ⟨reply, List.mem_of_getElem? hcall⟩
          · simp at hi
      | _ => simp [Call.asked?] at hi

theorem eq_of_create {model omitEmpty : Value} {ratio : Basis} {c : Client}
    (hclient : create model ratio omitEmpty = .ok c) :
    c = ⟨model, ratio, omitEmpty⟩ := by
  simp only [create] at hclient
  obtain ⟨-, -, hclient⟩ := bind_eq_ok_iff.mp hclient
  exact (Except.ok.inj hclient).symm

/-- What comes of a response is known once its prompt tokens are. -/
theorem complete_of_prompt (c : Client) {response : Response} {prompt : Value}
    (hprompt : response.reported.prompt? = some prompt) :
    c.complete response = (do
      let split ← allocateBy c.ratio.toRatio prompt
      let completion ← response.reported.completion
      Logged.note (.response response.id prompt completion)
      let usage ← split.breakdown.usage completion c.omitEmpty
      return ⟨response, split, usage⟩) := by
  obtain ⟨id, reported⟩ := response
  cases reported with
  | other value => cases hprompt
  | counted kind given completion =>
      cases hprompt
      rfl

/-- A chat leaves the client as it is, so the calls after it do what they would do without it. -/
theorem run_chat (c : Client) (before later : List Call) (request : Request)
    (reply : Reply) :
    c.run (before ++ .chat request reply :: later) =
        c.run before ++
          .exchanged ((c.assigned before).chat request reply) ::
            (c.assigned before).run later ∧
      c.after (before ++ [.chat request reply]) = c.after before := by
  constructor
  · rw [run_append]
    rfl
  · rw [after, List.foldl_append]
    rfl

/-- A client that could be made asks the provider once for every chat that has messages, in the
order of the calls, and for nothing else.  What it sends carries the model last assigned and what
the chat asks.  A chat without messages is refused, and a failure of the provider is handed on
with nothing recorded.  After any calls the client holds what was last assigned.  What comes of a
call follows from that and from the call; a chat does not change the client, and leaving it out
changes no other effect. -/
theorem run_asks_once {model omitEmpty : Value} {ratio : Basis} {c : Client}
    (hclient : create model ratio omitEmpty = .ok c) {calls : List Call}
    (hextra : ∀ request reply, Call.chat request reply ∈ calls →
      ∀ keyword ∈ request.extra.map (·.1),
        keyword ∉ "self" :: Request.keywords) :
    c = ⟨model, ratio, omitEmpty⟩ ∧
    c.sent calls =
      (c.asked calls).map (fun asked => asked.1.payload asked.2) ∧
    (∀ asked ∈ c.asked calls,
      asked.2.CarriedBy asked.1.model (asked.1.payload asked.2)) ∧
    c.after calls = c.assigned calls ∧
    (∀ i : Nat, (c.run calls)[i]? =
      calls[i]?.map fun call =>
        ((c.assigned (calls.take i)).call call).2) ∧
    ∀ before later request reply,
      calls = before ++ .chat request reply :: later →
      c.after (before ++ [.chat request reply]) = c.after before ∧
      c.run calls =
        c.run before ++
          .exchanged ((c.assigned before).chat request reply) ::
            (c.assigned before).run later ∧
      c.run (before ++ later) =
        c.run before ++ (c.assigned before).run later ∧
      (request.messages.isTrue = false →
        (c.assigned before).chat request reply =
          ⟨none, ⟨.error .messagesMissing, []⟩⟩) ∧
      (request.messages.isTrue → ∀ message, reply = .failure message →
        ((c.assigned before).chat request reply).outcome =
          ⟨.error (.provider message), []⟩) := by
  refine ⟨eq_of_create hclient, c.sent_eq_asked calls, ?_,
    c.after_eq_assigned calls, c.getElem?_run calls, ?_⟩
  · intro asked hasked
    obtain ⟨reply, hcall⟩ := mem_of_mem_asked hasked
    refine carriedBy_payload _ ?_
    intro keyword hkeyword hown
    exact hextra _ _ hcall keyword hkeyword (List.mem_cons_of_mem _ hown)
  · rintro before later request reply rfl
    obtain ⟨hrun, hafter⟩ := c.run_chat before later request reply
    refine ⟨hafter, hrun, c.run_append before later, ?_, ?_⟩
    · intro hmessages
      simp only [chat, hmessages]
      rfl
    · rintro hmessages message rfl
      simp only [chat, hmessages]
      rfl

theorem run_asks_once_renamed :
    ∃ c, create (.text "first") Ratio.standard (.bool true) = .ok c ∧
      c.sent
          [.chat { messages := .list [] } (.failure "down"),
            .chat { messages := .list [.text "a"], extra := [("seed", .int 1)] }
              (.failure "down"),
            .setModel (.text "second"),
            .chat { messages := .list [.text "b"] }
              (.response ⟨.text "id",
                .counted "CompletionUsage" (some (.int 1000)) (some (.int 5))⟩)] =
        [[("model", .text "first"), ("messages", .list [.text "a"]),
            ("temperature", .null), ("max_tokens", .null), ("seed", .int 1)],
          [("model", .text "second"), ("messages", .list [.text "b"]),
            ("temperature", .null), ("max_tokens", .null)]] := by
  let calls : List Call :=
    [.chat { messages := .list [] } (.failure "down"),
      .chat { messages := .list [.text "a"], extra := [("seed", .int 1)] }
        (.failure "down"),
      .setModel (.text "second"),
      .chat { messages := .list [.text "b"] }
        (.response ⟨.text "id",
          .counted "CompletionUsage" (some (.int 1000)) (some (.int 5))⟩)]
  have hextra : ∀ request reply, Call.chat request reply ∈ calls →
      ∀ keyword ∈ request.extra.map (·.1),
        keyword ∉ "self" :: Request.keywords := by
    intro request reply hcall
    simp only [calls, List.mem_cons, List.not_mem_nil, or_false,
      Call.chat.injEq, reduceCtorEq, false_or] at hcall
    rcases hcall with ⟨rfl, -⟩ | ⟨rfl, -⟩ | ⟨rfl, -⟩ <;> decide
  have hclient : create (.text "first") Ratio.standard (.bool true) =
      .ok ⟨.text "first", Ratio.standard, .bool true⟩ := rfl
  obtain ⟨-, hsent, -⟩ := run_asks_once hclient hextra
  exact ⟨_, hclient, hsent⟩

end Client

end TokenSplit
