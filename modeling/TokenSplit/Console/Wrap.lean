import TokenSplit.Text.Blank
import TokenSplit.Text.Width

/-!
# Wrapping

Breaking text into lines of a number of cells.  Lines break between words, and the blanks after a
word stay with it as far as the line has room; a word that is longer than a line begins a new one
and is cut.
-/

namespace TokenSplit.Console

open Text (charWidth isBlank width)

/-- The words of a text with the blanks after them; blanks in front go to the first word.  Blanks
alone are no word. -/
def words : Nat → List Char → List (List Char)
  | 0, _ => []
  | fuel + 1, s =>
    let front := s.takeWhile isBlank
    let s := s.dropWhile isBlank
    if s.isEmpty then []
    else
      let core := s.takeWhile fun c => !isBlank c
      let s := s.dropWhile fun c => !isBlank c
      let back := s.takeWhile isBlank
      (front ++ core ++ back) :: words fuel (s.dropWhile isBlank)

/-- Cuts a text into pieces that are not wider than a number of cells; `used` cells of the first
piece are taken, and `piece` holds its characters, the latest first. -/
def chop (cells : Nat) (used : Nat) (piece : List Char) : List Char → List (List Char)
  | [] => [piece.reverse]
  | c :: rest =>
    if cells < used + charWidth c then
      piece.reverse :: chop cells (charWidth c) [c] rest
    else
      chop cells (used + charWidth c) (c :: piece) rest

/-- Puts words on lines; `line` is the current line, which takes `used` cells. -/
def fill (cells : Nat) (used : Nat) (line : List Char) : List (List Char) → List (List Char)
  | [] => [line]
  | word :: rest =>
    let needed := width (Text.trimEnd word)
    if used + needed ≤ cells then
      fill cells (used + width word) (line ++ word) rest
    else
      let before := if line.isEmpty then [] else [line]
      if cells < needed then
        let pieces := chop cells 0 [] word
        let last := pieces.getLastD []
        before ++ pieces.dropLast ++ fill cells (width last) last rest
      else
        before ++ fill cells (width word) word rest

/-- Drops the blanks at the end of a line that are beyond a number of characters. -/
def dropExcess (cells : Nat) (line : List Char) : List Char :=
  let blanks := (line.reverse.takeWhile isBlank).length
  line.take (line.length - min blanks (line.length - cells))

/-- Cuts a line to a number of cells; half a wide character becomes a blank. -/
def crop : Nat → List Char → List Char
  | _, [] => []
  | cells, c :: rest =>
    if charWidth c ≤ cells then c :: crop (cells - charWidth c) rest
    else if cells = 0 then []
    else [' ']

/-- Replaces tabs by blanks up to the next multiple of eight cells. -/
def expandTabs (used : Nat) : List Char → List Char
  | [] => []
  | c :: rest =>
    if c = '\t' then
      let blanks := 8 - used % 8
      List.replicate blanks ' ' ++ expandTabs (used + blanks) rest
    else
      c :: expandTabs (used + charWidth c) rest

/-- Wraps a text without line ends. -/
def wrapLine (cells : Nat) (s : List Char) : List (List Char) :=
  let s := expandTabs 0 s
  let lines :=
    match words (s.length + 1) s with
    | [] => [s]
    | found => fill cells 0 [] found
  lines.map fun line =>
    let line := dropExcess cells line
    if cells < width line then crop cells line else line

/-- The lines of a text. -/
def lines : List Char → List (List Char)
  | [] => [[]]
  | c :: rest =>
    if c = '\n' then [] :: lines rest
    else
      match lines rest with
      | [] => [[c]]
      | line :: others => (c :: line) :: others

/-- Wraps a text. -/
def wrap (cells : Nat) (s : List Char) : List (List Char) :=
  (lines s).flatMap (wrapLine cells)

/-- Fills a line up with blanks. -/
def pad (cells : Nat) (line : List Char) : List Char :=
  line ++ List.replicate (cells - width line) ' '

end TokenSplit.Console
