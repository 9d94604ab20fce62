import TokenSplit.Decimal.Layout
import TokenSplit.Decimal.Numeral
import TokenSplit.Text.Quoted
import TokenSplit.Value

/-!
# The text of values

How values are written inside messages and reports.  An integer beyond the limit on numerals has
no text, and neither has what contains it.
-/

namespace TokenSplit

/-- Texts one after another with a comma and a blank between them. -/
def commaSeparated (texts : List String) : String :=
  ", ".intercalate texts

/-- A length of time in minutes, as days and the seconds of a day. -/
def durationText (minutes : Int) : String :=
  let days := minutes.fdiv 1440
  let seconds := (minutes.fmod 1440) * 60
  let days := if days = 0 then [] else [s!"days={days}"]
  let seconds := if seconds = 0 then [] else [s!"seconds={seconds}"]
  let fields := days ++ seconds
  "datetime.timedelta(" ++ (if fields.isEmpty then "0" else commaSeparated fields) ++ ")"

/-- The fields of a time of day that are written: seconds and microseconds only as far as the
last one that is not zero. -/
def Moment.timeFields (m : Moment) : List Nat :=
  if m.microsecond ≠ 0 then [m.hour, m.minute, m.second, m.microsecond]
  else if m.second ≠ 0 then [m.hour, m.minute, m.second]
  else [m.hour, m.minute]

/-- The text of a moment. -/
def Moment.render (m : Moment) : String :=
  let fields := [m.date.year, m.date.month, m.date.day] ++ m.timeFields
  let zone :=
    match m.offset with
    | none => []
    | some 0 => ["tzinfo=datetime.timezone.utc"]
    | some minutes => ["tzinfo=datetime.timezone(" ++ durationText minutes ++ ")"]
  "datetime.datetime(" ++ commaSeparated (fields.map toString ++ zone) ++ ")"

/-- The text of a scalar as it stands inside other texts. -/
def Scalar.render? : Scalar → Option String
  | .null => some "None"
  | .bool true => some "True"
  | .bool false => some "False"
  | .int n => (Decimal.numeral? n).map String.ofList
  | .float x => some (Decimal.Layout.standard.render x)
  | .text s => some (String.ofList (Text.quoted s.toList))
  | .codes c => some (String.ofList (Text.quotedCodes c))
  | .octets o => some (String.ofList (Text.quotedOctets o))
  | .date d => some s!"datetime.date({d.year}, {d.month}, {d.day})"
  | .moment m => some m.render

namespace Value

mutual

/-- The text of a value as it stands inside other texts. -/
def render? : Value → Option String
  | .scalar s => s.render?
  | .list items => do return "[" ++ commaSeparated (← renderItems? items) ++ "]"
  | .pairs items => do return "[" ++ commaSeparated (← renderPairs? items) ++ "]"
  | .set members => do
    if members.isEmpty then
      return "set()"
    return "\x7b" ++ commaSeparated (← members.mapM Scalar.render?) ++ "\x7d"
  | .mapping entries => do
    return "\x7b" ++ commaSeparated (← renderEntries? entries) ++ "\x7d"
  | .index target => do return "Index(" ++ (← render? target) ++ ")"

/-- The texts of the items of a list. -/
def renderItems? : List Value → Option (List String)
  | [] => some []
  | x :: xs => do return (← render? x) :: (← renderItems? xs)

/-- The texts of pairs. -/
def renderPairs? : List (Value × Value) → Option (List String)
  | [] => some []
  | (a, b) :: xs => do
    return ("(" ++ (← render? a) ++ ", " ++ (← render? b) ++ ")") :: (← renderPairs? xs)

/-- The texts of the entries of a mapping. -/
def renderEntries? : List (Scalar × Value) → Option (List String)
  | [] => some []
  | (key, value) :: rest => do
    return ((← key.render?) ++ ": " ++ (← render? value)) :: (← renderEntries? rest)

end

/-- The text of a value on its own: a text stands for itself, with codes of no characters
escaped. -/
def display? : Value → Option String
  | .text s => some s
  | .scalar (.codes c) => some (String.ofList (Text.shownCodes c))
  | v => v.render?

/-- The integer that stands for a value in a text with a place for an integer: numbers are cut
to their integer part, and an index gives the integer it holds. -/
def integerPart? : Value → Option Int
  | .int n => some n
  | .bool b => some (if b then 1 else 0)
  | .float x => Decimal.integerPart? x
  | .index (.int n) => some n
  | .index (.bool b) => some (if b then 1 else 0)
  | _ => none

end Value

end TokenSplit
