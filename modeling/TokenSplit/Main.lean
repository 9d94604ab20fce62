import Std.Time
import TokenSplit.CommandLine.Program

/-!
# Main

The outer layer of the program: the configuration file comes from the real disk and the time from
the real clock, and the transcript goes to the real screen.
-/

namespace TokenSplit

open CommandLine

/-- What stands at a path, if anything does. -/
def readNode (path : String) : IO (Option Node) := do
  try
    return some (.file (← IO.FS.readBinFile path).toList)
  catch
    | .inappropriateType .. => return some .directory
    | _ => return none

/-- A disk with what a path leads through. -/
def readDisk (path : Path) : IO Disk := do
  let mut disk := Disk.empty
  for n in List.range (path.parts.length + 1) do
    let front : Path := { path with parts := path.parts.take n }
    if let some node ← readNode front.render then
      if let some place := (disk.places front).getLast? then
        disk := disk.set place node
  return disk

/-- The disk as far as a command line looks at it. -/
def diskFor (words : List String) : IO Disk :=
  match Invocation.ofWords words with
  | .ok invocation =>
    match invocation.config? with
    | some path => readDisk (Path.ofString path)
    | none => return .empty
  | .error _ => return .empty

/-- The local time. -/
def readClock : IO Moment := do
  let now ← Std.Time.PlainDateTime.now
  return {
    date := ⟨now.date.year.toInt.toNat, now.date.month.toNat, now.date.day.toNat⟩
    hour := now.time.hour.toNat
    minute := now.time.minute.toNat
    second := now.time.second.toNat
    microsecond := 0
    offset := none }

end TokenSplit

open TokenSplit CommandLine in
/-- Runs one command line. -/
def main (words : List String) : IO UInt32 := do
  let around : Surroundings := ⟨Host.standard (← diskFor words), ← readClock⟩
  match (runOnce around .off words).1 with
  | .ok transcript =>
    for line in transcript.lines do
      IO.println (String.ofList line)
    return UInt32.ofNat transcript.exitCode
  | .error misuse =>
    IO.eprintln misuse.message
    return UInt32.ofNat misuseCode
