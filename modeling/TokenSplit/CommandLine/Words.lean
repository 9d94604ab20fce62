import TokenSplit.CommandLine.Misuse
import TokenSplit.Text.Similarity

/-!
# Words of a command line

Sorting the words of a command line into options with their values and operands.  A long option
has its value behind an equals sign or in the next word; letters can be joined in one word, and
what follows a letter that takes a value is the value.  Two hyphens end the options.
-/

namespace TokenSplit.CommandLine

/-- The options of all commands. -/
inductive Switch where
  | output
  | config
  | json
  | verbose
  | help
  | installCompletion
  | showCompletion
deriving DecidableEq, Repr

namespace Switch

/-- The long name of an option. -/
def name : Switch → String
  | .output => "--output-tokens"
  | .config => "--config"
  | .json => "--json"
  | .verbose => "--verbose"
  | .help => "--help"
  | .installCompletion => "--install-completion"
  | .showCompletion => "--show-completion"

/-- The letter of an option. -/
def letter? : Switch → Option Char
  | .output => some 'o'
  | .config => some 'c'
  | .verbose => some 'v'
  | _ => none

/-- Whether an option takes a value. -/
def takesValue : Switch → Bool
  | .output => true
  | .config => true
  | _ => false

end Switch

/-- Options in the order in which they are given, with their values, and the operands. -/
structure Words where
  given : List (Switch × String)
  operands : List String
deriving Repr

namespace Words

/-- The value of an option, which is the last one given. -/
def value? (w : Words) (switch : Switch) : Option String :=
  w.given.reverse.lookup switch

/-- Whether an option is given. -/
def has (w : Words) (switch : Switch) : Bool :=
  (w.value? switch).isSome

/-- The options of one word, and the last of them, as it is spelled, if it waits for its value. -/
structure Reading where
  given : List (Switch × String)
  awaiting : Option (Switch × String) := none

/-- Reads joined letters. -/
def readLetters (switches : List Switch) : List Char → Except Misuse Reading
  | [] => .ok ⟨[], none⟩
  | letter :: rest =>
    let name := String.ofList ['-', letter]
    match switches.find? fun s => s.letter? == some letter with
    | none => .error ⟨.optionUnknown name [], []⟩
    | some switch =>
      if switch.takesValue then
        if rest.isEmpty then .ok ⟨[], some (switch, name)⟩
        else .ok ⟨[(switch, String.ofList rest)], none⟩
      else
        (readLetters switches rest).map fun r => { r with given := (switch, "") :: r.given }

/-- Reads a long option. -/
def readLong (switches : List Switch) (word : List Char) : Except Misuse Reading :=
  let front := word.takeWhile (· != '=')
  let name := String.ofList front
  let value? := if front.length < word.length then some (word.drop (front.length + 1)) else none
  match switches.find? fun s => s.name == name with
  | none => .error ⟨.optionUnknown name (Text.closest name (switches.map Switch.name)), []⟩
  | some switch =>
    match switch.takesValue, value? with
    | true, some value => .ok ⟨[(switch, String.ofList value)], none⟩
    | true, none => .ok ⟨[], some (switch, name)⟩
    | false, some _ => .error ⟨.valueUnwanted name, []⟩
    | false, none => .ok ⟨[(switch, "")], none⟩

/-- Reads the options in a word, unless it is an operand. -/
def readWord (switches : List Switch) (word : String) : Option (Except Misuse Reading) :=
  match word.toList with
  | '-' :: '-' :: rest => some (readLong switches ('-' :: '-' :: rest))
  | '-' :: letter :: rest => some (readLetters switches (letter :: rest))
  | _ => none

/-- Sorts words; where operands and options are not `mixed`, the first operand ends the
options. -/
def read (switches : List Switch) (mixed : Bool) : List String → Except Misuse Words
  | [] => .ok ⟨[], []⟩
  | word :: rest =>
    if word = "--" then
      .ok ⟨[], rest⟩
    else
      match readWord switches word with
      | none =>
        if mixed then
          (read switches mixed rest).map fun w => { w with operands := word :: w.operands }
        else
          .ok ⟨[], word :: rest⟩
      | some (.error misuse) => .error misuse
      | some (.ok reading) =>
        match reading.awaiting with
        | none =>
          (read switches mixed rest).map fun w => { w with given := reading.given ++ w.given }
        | some (switch, name) =>
          match rest with
          | [] => .error ⟨.valueMissing name, []⟩
          | value :: rest =>
            (read switches mixed rest).map fun w =>
              { w with given := reading.given ++ (switch, value) :: w.given }

end Words

end TokenSplit.CommandLine
