import TokenSplit.CommandLine.Screen

/-!
# The program

Whole command lines, one after another.  A misuse does nothing; everything else leaves a
transcript, and the recording goes on into the next run.
-/

namespace TokenSplit.CommandLine

/-- The exit code of a misuse. -/
def misuseCode : Nat := 2

/-- What is given to every run: the host, and the time that records show. -/
structure Surroundings where
  host : Host
  now : Moment

/-- What comes of a command line. -/
def runOnce (around : Surroundings) (recording : Recording) (words : List String) :
    Except Misuse Transcript × Recording :=
  match Invocation.ofWords words with
  | .error misuse => (.error misuse, recording)
  | .ok invocation =>
    let (report, recording) := invocation.run around.host recording
    (.ok (report.transcript around.now), recording)

/-- What comes of command lines, each with the recording after it. -/
def runAll (around : Surroundings) (recording : Recording) :
    List (List String) → List (Except Misuse Transcript × Recording)
  | [] => []
  | words :: rest =>
    let done := runOnce around recording words
    done :: runAll around done.2 rest

end TokenSplit.CommandLine
