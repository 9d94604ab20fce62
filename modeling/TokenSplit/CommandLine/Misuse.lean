import TokenSplit.CommandLine.Count
import TokenSplit.Text.Quoted
import TokenSplit.Value.Text

/-!
# Misuse of a command line

What can be wrong with the words of a command line, as causes.  A cause may come with what was
perhaps meant: options that are like an unknown one, and commands that are like an unknown
command.
-/

namespace TokenSplit.CommandLine

/-- The causes of misuse. -/
inductive Misuse.Cause where
  /-- The token count is missing. -/
  | totalMissing
  /-- The token count is no integer. -/
  | totalInvalid (fault : CountFault)
  /-- The output is no integer. -/
  | outputInvalid (fault : CountFault)
  /-- An option is not known; some known ones are like it. -/
  | optionUnknown (name : String) (similar : List String)
  /-- An option has no value and takes one. -/
  | valueMissing (name : String)
  /-- An option has a value and takes none. -/
  | valueUnwanted (name : String)
  /-- There are more words than a command takes. -/
  | operandsUnwanted (operands : List String)
  /-- A command is not known. -/
  | commandUnknown (name : String)
deriving Repr

/-- What is wrong with a command line, and the commands that were perhaps meant. -/
structure Misuse where
  cause : Misuse.Cause
  commands : List String := []
deriving Repr

namespace Misuse

/-- A word between quotes. -/
def quotedWord (word : String) : String :=
  String.ofList (Text.quoted word.toList)

/-- The wording of a cause by itself. -/
def Cause.statement : Cause → String
  | .totalMissing => "Missing argument 'total'."
  | .totalInvalid fault => "Invalid value for 'total': " ++ fault.message
  | .outputInvalid fault => "Invalid value for '--output-tokens' / '-o': " ++ fault.message
  | .optionUnknown name _ => "No such option: " ++ name
  | .valueMissing name => s!"Option {quotedWord name} requires an argument."
  | .valueUnwanted name => s!"Option {quotedWord name} does not take a value."
  | .operandsUnwanted operands =>
    "Got unexpected extra argument(s) (" ++ " ".intercalate operands ++ ")"
  | .commandUnknown name => s!"No such command {quotedWord name}."

/-- The options that were perhaps meant, in order. -/
def Cause.options : Cause → List String
  | .optionUnknown _ similar => similar.mergeSort fun a b => decide (a ≤ b)
  | _ => []

/-- A text without the full stops at its end. -/
def dropStops (s : String) : String :=
  String.ofList (s.toList.reverse.dropWhile (· == '.')).reverse

/-- The wording of a misuse: what is wrong, then the commands and the options that were perhaps
meant. -/
def message (m : Misuse) : String :=
  let statement := m.cause.statement
  let asked :=
    if m.commands.isEmpty then statement
    else dropStops statement ++ ". Did you mean " ++
      commaSeparated (m.commands.map quotedWord) ++ "?"
  if m.cause.options.isEmpty then asked
  else asked ++ " (Possible options: " ++ commaSeparated m.cause.options ++ ")"

end Misuse

end TokenSplit.CommandLine
