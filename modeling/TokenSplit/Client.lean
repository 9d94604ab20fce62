import TokenSplit.Allocation
import TokenSplit.Arguments
import TokenSplit.Text.Blank

/-!
# Clients

A client sends chats to a provider and splits the prompt tokens that the provider reports.  The
response itself is handed on unchanged; of the provider only its reply is known.
-/

namespace TokenSplit

/-- What a client splits by: a ratio, or whatever else it is given in place of one. -/
inductive Basis where
  | ratio (r : Ratio)
  | other (v : Value)

instance : Coe Ratio Basis where
  coe := .ratio

/-- The ratio, or the kind of what is none. -/
def Basis.toRatio : Basis → Except Kind Ratio
  | .ratio r => .ok r
  | .other v => .error v.kind

/-- What a client holds; nothing but the model is checked, and that only once. -/
structure Client where
  model : Value
  ratio : Basis
  omitEmpty : Value

/-- What a caller asks of a chat. -/
structure Request where
  messages : Value
  temperature : Value := .null
  maxTokens : Value := .null
  extra : List (String × Value) := []

/-- The usage that a provider reports: a thing of its own kind, with two counts of which each may be
lacking, or some other value. -/
inductive Reported where
  | counted (kind : String) (prompt completion : Option Value)
  | other (value : Value)

/-- A response of the provider. -/
structure Response where
  id : Value
  reported : Reported

/-- What the provider does with a request. -/
inductive Reply where
  | response (response : Response)
  | failure (message : String)

/-- A response with its split and its usage. -/
structure Completion where
  response : Response
  split : Split
  usage : Usage

/-- One call of a chat: what the provider was sent, if anything, and what came of it. -/
structure Exchange where
  sent : Option (List (String × Value))
  outcome : Logged Completion

/-- What a caller does with a client. -/
inductive Call where
  | setModel (value : Value)
  | setOmission (value : Value)
  | setRatio (basis : Basis)
  | chat (request : Request) (reply : Reply)

/-- What comes of a call. -/
inductive Effect where
  | assigned (field : String)
  | exchanged (exchange : Exchange)

namespace Reported

/-- Whether a usage counts as missing. -/
def isMissing : Reported → Bool
  | .counted _ _ _ => false
  | .other value => !value.isTrue

/-- The kind of a usage. -/
def kind : Reported → Kind
  | .counted kind _ _ => .other kind
  | .other value => value.kind

/-- The prompt tokens, where a usage has them. -/
def prompt? : Reported → Option Value
  | .counted _ prompt _ => prompt
  | .other _ => none

/-- The completion tokens, where a usage has them. -/
def completion? : Reported → Option Value
  | .counted _ _ completion => completion
  | .other _ => none

/-- The prompt tokens; a usage without them has no such attribute. -/
def prompt (u : Reported) : Except Fault Value :=
  match u.prompt? with
  | some value => .ok value
  | none => .error (.noAttribute u.kind "prompt_tokens")

/-- The completion tokens; a usage without them has no such attribute. -/
def completion (u : Reported) : Except Fault Value :=
  match u.completion? with
  | some value => .ok value
  | none => .error (.noAttribute u.kind "completion_tokens")

end Reported

namespace Client

/-- Whether a text, or octets, are nothing but blanks; other values cannot be asked. -/
def isBlankModel : Value → Except Fault Bool
  | .text s => .ok (s.toList.all Text.isBlank)
  | .scalar (.codes _) => .ok false
  | .scalar (.octets o) => .ok (o.all fun c => c == 0x20 || (0x09 ≤ c && c ≤ 0x0D))
  | v => .error (.noAttribute v.kind "strip")

/-- Checks the name of a model, which has to hold something other than blanks. -/
def checkModel (model : Value) : Except Fault Unit := do
  if !model.isTrue then
    throw .modelMissing
  if ← isBlankModel model then
    throw .modelMissing

/-- A client for a model. -/
def create (model : Value) (ratio : Basis) (omitEmpty : Value) : Except Fault Client := do
  checkModel model
  return ⟨model, ratio, omitEmpty⟩

/-- What is sent to the provider. -/
def payload (c : Client) (request : Request) : List (String × Value) :=
  [("model", c.model), ("messages", request.messages), ("temperature", request.temperature),
    ("max_tokens", request.maxTokens)] ++ request.extra

/-- Splits the prompt tokens of a response and reports its usage; a missing usage is recorded.  The
completion tokens are not looked at before the prompt tokens are split. -/
def complete (c : Client) (response : Response) : Logged Completion := do
  let reported := response.reported
  if reported.isMissing then
    Logged.note (.usageMissing response.id)
    throw Fault.usageMissing
  let prompt ← reported.prompt
  let split ← allocateBy c.ratio.toRatio prompt
  let completion ← reported.completion
  Logged.note (.response response.id prompt completion)
  let usage ← split.breakdown.usage completion c.omitEmpty
  return ⟨response, split, usage⟩

/-- A chat: nothing is sent without messages, and a failure of the provider is handed on. -/
def chat (c : Client) (request : Request) (reply : Reply) : Exchange :=
  if !request.messages.isTrue then
    ⟨none, throw Fault.messagesMissing⟩
  else
    let outcome : Logged Completion :=
      match reply with
      | .response response => c.complete response
      | .failure message => throw (Fault.provider message)
    ⟨some (c.payload request), outcome⟩

/-- Does one call. -/
def call (c : Client) : Call → Client × Effect
  | .setModel value => ({ c with model := value }, .assigned "model")
  | .setOmission value => ({ c with omitEmpty := value }, .assigned "omit_empty_cache_fields")
  | .setRatio basis => ({ c with ratio := basis }, .assigned "ratio")
  | .chat request reply => (c, .exchanged (c.chat request reply))

/-- Does calls one after another. -/
def run (c : Client) : List Call → List Effect
  | [] => []
  | call :: rest => (c.call call).2 :: run (c.call call).1 rest

end Client

end TokenSplit
