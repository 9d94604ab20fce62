import TokenSplit.Text.Ranges

/-!
# Cursors

A place in a document, as what is left to read together with the index, the line and the column
reached.  Layout decides what a document means, so every step keeps count of them.
-/

namespace TokenSplit.Yaml

/-- Whether a character ends a line; carriage returns are gone before a document is read. -/
def isBreak (c : Char) : Bool :=
  c == '\n' || c == '\x85' || c == '\u2028' || c == '\u2029'

/-- The mark that may stand before the first character of a document. -/
def byteOrderMark : Char := '\ufeff'

/-- The characters that a document may contain. -/
def isAllowed (c : Char) : Bool :=
  Text.inRanges [(0x09, 0x0A), (0x0D, 0x0D), (0x20, 0x7E), (0x85, 0x85), (0xA0, 0xFFFD),
    (0x10000, 0x10FFFF)] c.toNat

/-- Whether a line ends here, or the document. -/
def lineEnds : List Char → Bool
  | [] => true
  | c :: _ => isBreak c

/-- Whether a line or the document ends here, or a blank follows. -/
def fieldEnds : List Char → Bool
  | [] => true
  | c :: _ => c == ' ' || isBreak c

/-- Whether a word ends here: a line or the document ends, or a blank or a tab follows. -/
def wordEnds : List Char → Bool
  | [] => true
  | c :: _ => c == ' ' || c == '\t' || isBreak c

/-- Whether a character may stand in the names of anchors, handles and directives. -/
def isNameChar (c : Char) : Bool :=
  c.isAlphanum || c == '-' || c == '_'

/-- A place in a document. -/
structure Cursor where
  rest : List Char
  index : Nat
  line : Nat
  column : Nat

namespace Cursor

/-- The place before the first character. -/
def start (s : List Char) : Cursor :=
  ⟨s, 0, 0, 0⟩

/-- The next character. -/
def peek? (c : Cursor) : Option Char :=
  c.rest.head?

/-- Steps over one character. -/
def next (c : Cursor) : Cursor :=
  match c.rest with
  | [] => c
  | x :: rest =>
    if isBreak x then ⟨rest, c.index + 1, c.line + 1, 0⟩
    else ⟨rest, c.index + 1, c.line, if x = byteOrderMark then c.column else c.column + 1⟩

/-- Steps over a number of characters. -/
def advance : Nat → Cursor → Cursor
  | 0, c => c
  | n + 1, c => advance n c.next

/-- Steps over the characters of a class, and gives them. -/
def span (p : Char → Bool) (c : Cursor) : List Char × Cursor :=
  let taken := c.rest.takeWhile p
  (taken, c.advance taken.length)

/-- Steps over the characters of a class. -/
def skipWhile (p : Char → Bool) (c : Cursor) : Cursor :=
  c.advance (c.rest.takeWhile p).length

/-- Steps over blanks. -/
def skipBlanks (c : Cursor) : Cursor :=
  c.skipWhile (· == ' ')

/-- Steps over blanks as long as they are left of a column. -/
def skipIndent (column : Nat) (c : Cursor) : Cursor :=
  c.advance (min (column - c.column) (c.rest.takeWhile (· == ' ')).length)

/-- Steps over a comment, if there is one, but not over the end of its line. -/
def skipComment (c : Cursor) : Cursor :=
  if c.peek? = some '#' then c.skipWhile fun x => !isBreak x else c

/-- Steps over the end of a line, if there is one, and gives the character that it counts as. -/
def lineBreak (c : Cursor) : List Char × Cursor :=
  match c.rest with
  | [] => ([], c)
  | x :: _ =>
    if isBreak x then
      ([if x = '\u2028' ∨ x = '\u2029' then x else '\n'], c.next)
    else
      ([], c)

/-- Whether a mark of three characters that begins or ends a document stands here. -/
def atMark (mark : Char) (c : Cursor) : Bool :=
  match c.rest with
  | x :: y :: z :: rest => x == mark && y == mark && z == mark && wordEnds rest
  | _ => false

/-- Whether a document begins or ends here, provided that a line begins here. -/
def atBoundary (c : Cursor) : Bool :=
  c.atMark '-' || c.atMark '.'

end Cursor

end TokenSplit.Yaml
