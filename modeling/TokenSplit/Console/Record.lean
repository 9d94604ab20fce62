import TokenSplit.Calendar
import TokenSplit.Console.Wrap

/-!
# Records on the screen

A recorded event as lines of three columns: the time, the level and the text.  The time is shown
with the first record only.
-/

namespace TokenSplit.Console

/-- The width of the time, with the blank after it. -/
def timeWidth : Nat := 20

/-- The width of the level, with the blank after it. -/
def levelWidth : Nat := 9

/-- The width that is left for the text. -/
def textWidth : Nat := 51

/-- The last two digits of a number. -/
def twoDigits (n : Nat) : List Char :=
  [Nat.digitChar (n / 10 % 10), Nat.digitChar (n % 10)]

/-- A moment as the time of a record, in brackets: month, day and year, and the time of day. -/
def stamp (m : Moment) : List Char :=
  let day := twoDigits m.date.month ++ '/' :: twoDigits m.date.day ++ '/' :: twoDigits m.date.year
  let time := twoDigits m.hour ++ ':' :: twoDigits m.minute ++ ':' :: twoDigits m.second
  '[' :: day ++ ' ' :: time ++ [']']

/-- The lines of a record; the time is left out where none is given. -/
def recordLines (time : Option (List Char)) (level text : List Char) : List (List Char) :=
  let front := pad timeWidth (time.getD []) ++ pad levelWidth level
  let later := List.replicate (timeWidth + levelWidth) ' '
  match (wrap textWidth text).map (pad textWidth) with
  | [] => []
  | first :: rest => (front ++ first) :: rest.map (later ++ ·)

end TokenSplit.Console
