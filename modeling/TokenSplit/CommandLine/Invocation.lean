import TokenSplit.CommandLine.Words

/-!
# Invocations

What a command line asks for.  The options of the program stand before the name of a command, and
the options of the command anywhere after it.  Where several words are wrong, an option that
cannot be read comes first, then the output, then the token count, then words too many.
-/

namespace TokenSplit.CommandLine

/-- What the command that splits a token count is asked. -/
structure SplitRequest where
  total : Int
  output : Option Int := none
  config : Option String := none
  json : Bool := false
  verbose : Bool := false
deriving DecidableEq, Repr

/-- What a command line asks for. -/
inductive Invocation where
  | hint
  | help
  | ratio (config : Option String)
  | distribute (request : SplitRequest)
deriving DecidableEq, Repr

namespace Invocation

/-- The options of the program. -/
def programSwitches : List Switch :=
  [.installCompletion, .showCompletion, .help]

/-- The options of the command that splits a token count. -/
def distributeSwitches : List Switch :=
  [.output, .config, .json, .verbose, .help]

/-- The options of the command that shows the ratio. -/
def ratioSwitches : List Switch :=
  [.config, .help]

/-- The names of the commands. -/
def commands : List String :=
  ["distribute", "ratio"]

/-- The output that is given, if one is. -/
def outputOf (w : Words) : Except Misuse (Option Int) :=
  match w.value? .output with
  | none => .ok none
  | some word =>
    match count word with
    | .ok n => .ok (some n)
    | .error fault => .error ⟨.outputInvalid fault, []⟩

/-- The token count, which is the first operand, and the operands after it. -/
def totalOf (w : Words) : Except Misuse (Int × List String) :=
  match w.operands with
  | [] => .error ⟨.totalMissing, []⟩
  | word :: rest =>
    match count word with
    | .ok n => .ok (n, rest)
    | .error fault => .error ⟨.totalInvalid fault, []⟩

/-- Refuses operands that no command takes. -/
def refuseOperands (operands : List String) : Except Misuse Unit :=
  if operands.isEmpty then .ok () else .error ⟨.operandsUnwanted operands, []⟩

/-- Reads the words after the name of the command that splits a token count. -/
def ofDistributeWords (words : List String) : Except Misuse Invocation := do
  let w ← Words.read distributeSwitches true words
  if w.has .help then
    return .help
  let output ← outputOf w
  let (total, rest) ← totalOf w
  refuseOperands rest
  return .distribute {
    total := total
    output := output
    config := w.value? .config
    json := w.has .json
    verbose := w.has .verbose }

/-- Reads the words after the name of the command that shows the ratio. -/
def ofRatioWords (words : List String) : Except Misuse Invocation := do
  let w ← Words.read ratioSwitches true words
  if w.has .help then
    return .help
  refuseOperands w.operands
  return .ratio (w.value? .config)

/-- Reads words whose first is no command.  Behind two hyphens it may be an option all the same,
and is read as one. -/
def ofUnknownWords (name : String) (rest : List String) : Except Misuse Invocation :=
  let similar := Text.closest name commands
  match Words.read programSwitches false (name :: rest) with
  | .error misuse => .error { misuse with commands := similar }
  | .ok w => if w.given.isEmpty then .error ⟨.commandUnknown name, similar⟩ else .ok .help

/-- Reads a command line. -/
def ofWords (words : List String) : Except Misuse Invocation := do
  let w ← Words.read programSwitches false words
  if !w.given.isEmpty then
    return .help
  match w.operands with
  | [] => return .hint
  | name :: rest =>
    if name = "distribute" then ofDistributeWords rest
    else if name = "ratio" then ofRatioWords rest
    else ofUnknownWords name rest

/-- The path of the configuration that is asked for. -/
def config? : Invocation → Option String
  | .ratio config => config
  | .distribute request => request.config
  | _ => none

end Invocation

end TokenSplit.CommandLine
