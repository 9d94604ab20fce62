import TokenSplit.Allocation
import TokenSplit.CommandLine.Invocation
import TokenSplit.Config.Load
import TokenSplit.Usage.Document

/-!
# Reports

What a command does and writes.  A report consists of pieces that are still data; how they look is
not decided here.  Once events are recorded on the screen, they stay recorded in all later runs.
-/

namespace TokenSplit.CommandLine

/-- Whether events are recorded on the screen, and whether a record has shown the time. -/
inductive Recording where
  | off
  | untimed
  | timed
deriving DecidableEq, Repr

namespace Recording

/-- Events are recorded from now on. -/
def turnOn : Recording → Recording
  | .off => .untimed
  | recording => recording

/-- Whether events are recorded. -/
def isOn : Recording → Bool
  | .off => false
  | _ => true

end Recording

/-- A part of what a command writes. -/
inductive Piece where
  /-- How to get help. -/
  | hint
  /-- The commands and their options. -/
  | help
  /-- An event; the first one that is recorded shows the time. -/
  | record (event : Event) (timed : Bool)
  /-- A usage as a document. -/
  | document (usage : Usage)
  /-- The numbers of a split, by name. -/
  | table (rows : List (String × Int))
  /-- That no token is in the cache. -/
  | noCache
  /-- A fault that ended the command. -/
  | fault (fault : Fault)
  /-- The parts of a ratio. -/
  | parts (ratio : Ratio)
  /-- The threshold of a ratio. -/
  | threshold (ratio : Ratio)

/-- What a command writes, and whether it failed. -/
structure Report where
  pieces : List Piece
  failed : Bool := false

namespace Recording

/-- Records events.  An event whose wording cannot be written is a fault. -/
def record (recording : Recording) : List Event → Except Fault (List Piece × Recording)
  | [] => .ok ([], recording)
  | event :: rest =>
    match recording with
    | .off => .ok ([], .off)
    | _ =>
      if event.text?.isNone then
        .error .numeralTooLong
      else do
        let (pieces, after) ← record .timed rest
        return (.record event (decide (recording = .untimed)) :: pieces, after)

end Recording

namespace Report

/-- A report that ends with a fault. -/
def failure (pieces : List Piece) (fault : Fault) : Report where
  pieces := pieces ++ [.fault fault]
  failed := true

/-- The configuration at a path, or the standard one where there is none. -/
def configAt (host : Host) : Option String → Except Fault Config
  | none => .ok Config.standard
  | some path => Config.load host path

/-- The numbers of a split and the output, by name. -/
def rows (split : Split) (output : Option Int) : List (String × Int) :=
  [(Usage.inputKey, (split.input : Int)), (Usage.creationKey, (split.creation : Int)),
    (Usage.readKey, (split.read : Int))] ++
  output.toList.map (Usage.outputKey, ·) ++
  [("total input", (split.total : Int))]

/-- The pieces that show a split. -/
def splitPieces (split : Split) (output : Option Int) : List Piece :=
  .table (rows split output) :: if split.HasCache then [] else [.noCache]

/-- The output as a value, which is nothing where none is given. -/
def outputValue : Option Int → Value
  | none => .null
  | some n => .int n

/-- Splits a token count: the configuration is loaded, the count split and recorded, and the usage
reported. -/
def distribute (host : Host) (recording : Recording) (request : SplitRequest) :
    Report × Recording :=
  let recording := if request.verbose then recording.turnOn else recording
  match configAt host request.config with
  | .error fault => (failure [] fault, recording)
  | .ok config =>
    let allocation := config.ratio.allocate (.int request.total)
    match recording.record allocation.log with
    | .error fault => (failure [] fault, recording)
    | .ok (records, recording) =>
      match allocation.result with
      | .error fault => (failure records fault, recording)
      | .ok split =>
        match split.breakdown.usage (outputValue request.output) config.omitEmpty with
        | .error fault => (failure records fault, recording)
        | .ok usage =>
          if request.json then (⟨records ++ [.document usage], false⟩, recording)
          else (⟨records ++ splitPieces split request.output, false⟩, recording)

/-- Shows the ratio of a configuration. -/
def ratio (host : Host) (config : Option String) : Report :=
  match configAt host config with
  | .error fault => failure [] fault
  | .ok config => ⟨[.parts config.ratio, .threshold config.ratio], false⟩

end Report

/-- What comes of an invocation. -/
def Invocation.run (host : Host) (recording : Recording) : Invocation → Report × Recording
  | .hint => (⟨[.hint], false⟩, recording)
  | .help => (⟨[.help], false⟩, recording)
  | .ratio config => (Report.ratio host config, recording)
  | .distribute request => Report.distribute host recording request

end TokenSplit.CommandLine
