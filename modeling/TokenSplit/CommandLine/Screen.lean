import TokenSplit.CommandLine.Report
import TokenSplit.Console.Markup
import TokenSplit.Console.Record
import TokenSplit.Console.Table

/-!
# Screens

How reports look on a screen: every piece becomes lines.  A fault is shown with its markup
interpreted, and a number has to have a numeral; where that fails the command breaks off and its
earlier lines stay.
-/

namespace TokenSplit.CommandLine

open Console (screenWidth wrap)

/-- Why a piece cannot be shown. -/
inductive Breakage where
  /-- The markup of a text closes what is not open. -/
  | markup
  /-- A numeral would be too long. -/
  | numeral
deriving DecidableEq, Repr

/-- What a run leaves: the lines on the screen, its exit code, and why it broke off if it did. -/
structure Transcript where
  lines : List (List Char)
  exitCode : Nat
  breakage : Option Breakage := none

namespace Piece

/-- The lines of the hint. -/
def hintLines : List (List Char) :=
  ["Token Distributor - Use --help to see available commands".toList]

/-- The lines of the help. -/
def helpLines : List (List Char) :=
  let options (switches : List Switch) : String := " ".intercalate (switches.map Switch.name)
  ["distribute TOTAL " ++ options Invocation.distributeSwitches,
    "ratio " ++ options Invocation.ratioSwitches].map String.toList

/-- The table of numbers by name. -/
def tableOf (rows : List (String × Int)) : Console.Table where
  title := "Token Distribution".toList
  nameHeader := "Field".toList
  numberHeader := "Tokens".toList
  rows := rows.map fun (name, n) => (name.toList, Decimal.grouped n)

/-- The text of a fault, with markup. -/
def faultMarkup (fault : Fault) : List Char :=
  "[red]Error:[/] ".toList ++ fault.message.toList

/-- The text of the parts of a ratio. -/
def partsText? (r : Ratio) : Option (List Char) := do
  let input ← Decimal.numeral? r.input
  let creation ← Decimal.numeral? r.creation
  let read ← Decimal.numeral? r.read
  let total ← Decimal.numeral? r.totalParts
  return "Ratio: ".toList ++ input ++ ':' :: creation ++ ':' :: read ++ " (".toList ++ total ++
    " parts)".toList

/-- The text of the threshold of a ratio. -/
def thresholdText? (r : Ratio) : Option (List Char) := do
  return "Threshold: ".toList ++ (← Decimal.grouped? r.threshold) ++ " tokens".toList

/-- The lines of a text, if there is one. -/
def textLines (breakage : Breakage) : Option (List Char) → Except Breakage (List (List Char))
  | some s => .ok (wrap screenWidth s)
  | none => .error breakage

/-- The lines of a piece; records show the time `now`. -/
def lines (now : Moment) : Piece → Except Breakage (List (List Char))
  | .hint => .ok hintLines
  | .help => .ok helpLines
  | .record event timed =>
    .ok (Console.recordLines (if timed then some (Console.stamp now) else none)
      event.level.name.toList (event.text?.getD "").toList)
  | .document usage => .ok [usage.document.print]
  | .table rows => .ok (tableOf rows).render
  | .noCache => .ok ["Below threshold: no cache tokens reported".toList]
  | .fault cause => textLines .markup (Console.Markup.plain? (faultMarkup cause))
  | .parts ratio => textLines .numeral (partsText? ratio)
  | .threshold ratio => textLines .numeral (thresholdText? ratio)

end Piece

/-- The lines of pieces up to the first that cannot be shown. -/
def piecesLines (now : Moment) : List Piece → List (List Char) × Option Breakage
  | [] => ([], none)
  | piece :: rest =>
    match piece.lines now with
    | .error breakage => ([], some breakage)
    | .ok lines =>
      let (more, breakage) := piecesLines now rest
      (lines ++ more, breakage)

/-- What a report leaves. -/
def Report.transcript (now : Moment) (report : Report) : Transcript :=
  match piecesLines now report.pieces with
  | (lines, some breakage) => ⟨lines, 1, some breakage⟩
  | (lines, none) => ⟨lines, if report.failed then 1 else 0, none⟩

end TokenSplit.CommandLine
