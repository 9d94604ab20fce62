import TokenSplit.Console.Wrap

/-!
# Tables

A table of names and numbers in a box, with a title centred above it.  A number that is too long
for the screen is cut and ends in a mark.
-/

namespace TokenSplit.Console

/-- The width of the screen in cells. -/
def screenWidth : Nat := 80

/-- A table of two columns. -/
structure Table where
  title : List Char
  nameHeader : List Char
  numberHeader : List Char
  rows : List (List Char × List Char)

namespace Table

/-- Puts blanks before a text. -/
def padLeft (cells : Nat) (s : List Char) : List Char :=
  List.replicate (cells - s.length) ' ' ++ s

/-- Cuts a text that is too long and marks the cut. -/
def cut (cells : Nat) (s : List Char) : List Char :=
  if cells < s.length then s.take (cells - 1) ++ ['…'] else s

/-- The width of the column of names. -/
def nameWidth (t : Table) : Nat :=
  ((t.nameHeader :: t.rows.map (·.1)).map List.length).foldl max 0

/-- The width that the column of numbers would like to have. -/
def wantedWidth (t : Table) : Nat :=
  ((t.numberHeader :: t.rows.map (·.2)).map List.length).foldl max 0

/-- The cells that are neither names nor numbers: three borders, and a blank on each side of the
two columns. -/
def frameWidth : Nat := 7

/-- The width of the column of numbers, which takes what the screen leaves it. -/
def numberWidth (t : Table) : Nat :=
  min t.wantedWidth (screenWidth - frameWidth - t.nameWidth)

/-- A horizontal border. -/
def border (t : Table) (left line middle right : Char) : List Char :=
  left :: List.replicate (t.nameWidth + 2) line ++ middle ::
    List.replicate (t.numberWidth + 2) line ++ [right]

/-- A row between vertical borders. -/
def row (t : Table) (edge : Char) (name number : List Char) : List Char :=
  [edge, ' '] ++ name ++ List.replicate (t.nameWidth - name.length) ' ' ++ [' ', edge, ' '] ++
    number ++ [' ', edge]

/-- The title with blanks on both sides. -/
def titleLine (t : Table) : List Char :=
  let room := t.nameWidth + t.numberWidth + frameWidth - t.title.length
  List.replicate (room / 2) ' ' ++ t.title ++ List.replicate (room - room / 2) ' '

/-- The lines of a table. -/
def render (t : Table) : List (List Char) :=
  let number (s : List Char) : List Char := padLeft t.numberWidth (cut t.numberWidth s)
  [t.titleLine, t.border '┏' '━' '┳' '┓',
    t.row '┃' t.nameHeader (number t.numberHeader),
    t.border '┡' '━' '╇' '┩'] ++
  t.rows.map (fun r => t.row '│' r.1 (number r.2)) ++
  [t.border '└' '─' '┴' '┘']

end Table

end TokenSplit.Console
