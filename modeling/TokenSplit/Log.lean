import TokenSplit.Split
import TokenSplit.Value.Text

/-!
# Log

What is recorded along the way, as events; their level, their origin and their wording follow
from the event.  An event whose wording asks for an integer where none is has no text.
-/

namespace TokenSplit

/-- How much an event matters. -/
inductive Level where
  | debug
  | info
  | warning
  | error
deriving DecidableEq, Repr

namespace Level

/-- The name of a level. -/
def name : Level → String
  | .debug => "DEBUG"
  | .info => "INFO"
  | .warning => "WARNING"
  | .error => "ERROR"

/-- The place of a level in the order of importance. -/
def rank : Level → Nat
  | .debug => 0
  | .info => 1
  | .warning => 2
  | .error => 3

end Level

/-- What can be recorded. -/
inductive Event where
  /-- A count was below the threshold and left whole. -/
  | belowThreshold (total threshold : Nat)
  /-- A count was split. -/
  | allocated (total : Nat) (split : Split)
  /-- A response reported no usage. -/
  | usageMissing (id : Value)
  /-- A response reported its usage. -/
  | response (id prompt completion : Value)

namespace Event

/-- How much an event matters. -/
def level : Event → Level
  | .usageMissing _ => .warning
  | _ => .debug

/-- The part of the library that records an event. -/
def source : Event → String
  | .belowThreshold _ _ => "token_distributor.core.distribution"
  | .allocated _ _ => "token_distributor.core.distribution"
  | .usageMissing _ => "token_distributor.sdk.openai_client"
  | .response _ _ _ => "token_distributor.sdk.openai_client"

/-- The numeral of a value that a text takes as an integer. -/
def numeral? (v : Value) : Option String := do
  return String.ofList (← Decimal.numeral? (← v.integerPart?))

/-- The wording of an event, unless one of its values cannot be written as the wording asks. -/
def text? : Event → Option String
  | .belowThreshold total threshold => do
    return (← numeral? (.count total)) ++ " tokens below threshold " ++
      (← numeral? (.count threshold)) ++ ", not distributed"
  | .allocated total split => do
    return "Distributed " ++ (← numeral? (.count total)) ++ " tokens as " ++
      (← numeral? (.count split.input)) ++ "/" ++ (← numeral? (.count split.creation)) ++ "/" ++
      (← numeral? (.count split.read))
  | .usageMissing id => do
    return "Response " ++ (← id.display?) ++ " has no usage information"
  | .response id prompt completion => do
    return "Response " ++ (← id.display?) ++ ": " ++ (← numeral? prompt) ++ " prompt tokens, " ++
      (← numeral? completion) ++ " completion tokens"

/-- Whether an event is important enough to be shown. -/
def shownAt (event : Event) (level : Level) : Bool :=
  level.rank ≤ event.level.rank

end Event

/-- The events that are shown at a level and have a text, with that text. -/
def shown (level : Level) (events : List Event) : List (Event × String) :=
  (events.filter fun e => e.shownAt level).filterMap fun e => e.text?.map (e, ·)

end TokenSplit
