import TokenSplit.Json
import TokenSplit.Yaml.Cursor
import TokenSplit.Yaml.Token

/-!
# Quoted texts

Texts between quotes.  Lines are folded as in plain texts; between quotation marks a backslash
escapes characters, line ends and character codes.
-/

namespace TokenSplit.Yaml

/-- The characters that a backslash and one more character write. -/
def escapes : List (Char × Char) :=
  [('0', '\x00'), ('a', '\x07'), ('b', '\x08'), ('t', '\x09'), ('\t', '\x09'), ('n', '\x0a'),
   ('v', '\x0b'), ('f', '\x0c'), ('r', '\x0d'), ('e', '\x1b'), (' ', ' '), ('"', '"'),
   ('\\', '\\'), ('/', '/'), ('N', '\x85'), ('_', '\xa0'), ('L', '\u2028'), ('P', '\u2029')]

/-- The number of hexadecimal digits of the escapes that write a character by its code. -/
def codeLength? : Char → Option Nat
  | 'x' => some 2
  | 'u' => some 4
  | 'U' => some 8
  | _ => none

/-- Checks that a code is in range.  Halves of surrogate pairs are, though no character has their
code. -/
def checkCode (code : Nat) : Reading Unit :=
  if 0x7FFFFFFF < code then .error (.refused (.codeTooLarge false))
  else if 0x10FFFF < code then .error (.refused (.codeTooLarge true))
  else .ok ()

/-- The code that is written by a number of digits. -/
def readCode (length : Nat) (c : Cursor) : Reading (Nat × Cursor) := do
  let digits := (c.rest.take length).filterMap Json.hexValue?
  if digits.length ≠ length then malformed
  let code := digits.foldl (fun n d => n * 16 + d) 0
  checkCode code
  return (code, c.advance length)

/-- Steps over blank lines and indentation inside quotes and gives the line ends. -/
def quotedBreaks : Nat → Cursor → Reading (List Char × Cursor)
  | 0, _ => malformed
  | fuel + 1, c => do
    if c.atBoundary then malformed
    match (c.skipWhile fun x => x == ' ' || x == '\t').lineBreak with
    | ([], c) => return ([], c)
    | (x, c) =>
      let (rest, c) ← quotedBreaks fuel c
      return (x ++ rest, c)

/-- Blanks inside quotes; a line end and the blanks around it are folded. -/
def quotedGap (c : Cursor) : Reading (List Char × Cursor) := do
  let (blanks, c) := c.span fun x => x == ' ' || x == '\t'
  match c.lineBreak with
  | ([], c) => return (blanks, c)
  | (first, c) =>
    let (breaks, c) ← quotedBreaks (c.rest.length + 1) c
    if first ≠ ['\n'] then return (first ++ breaks, c)
    else if breaks.isEmpty then return ([' '], c)
    else return (breaks, c)

/-- Characters that were read, by their codes. -/
def codesOf (part : List Char × Cursor) : List Nat × Cursor :=
  (part.1.map Char.toNat, part.2)

/-- Reads an escape after its backslash. -/
def readEscape (c : Cursor) : Reading (List Nat × Cursor) :=
  match c.rest with
  | [] => malformed
  | x :: _ =>
    match escapes.lookup x, codeLength? x with
    | some y, _ => .ok ([y.toNat], c.next)
    | none, some length => do
      let (code, c) ← readCode length c.next
      return ([code], c)
    | none, none =>
      if isBreak x then codesOf <$> quotedBreaks (c.rest.length + 1) c.lineBreak.2
      else malformed

/-- Reads the rest of a quoted text, and the quote that ends it. -/
def readQuotedFrom (quote : Char) : Nat → Cursor → Reading (List Nat × Cursor)
  | 0, _ => malformed
  | fuel + 1, c =>
    match c.rest with
    | [] => malformed
    | x :: rest => do
      if x = quote then
        if quote = '\'' ∧ rest.head? = some '\'' then
          let (tail, c) ← readQuotedFrom quote fuel (c.advance 2)
          return (quote.toNat :: tail, c)
        else
          return ([], c.next)
      else
        let (part, c) ←
          if quote = '"' ∧ x = '\\' then readEscape c.next
          else if wordEnds c.rest then codesOf <$> quotedGap c
          else pure ([x.toNat], c.next)
        let (tail, c) ← readQuotedFrom quote fuel c
        return (part ++ tail, c)

/-- Reads a quoted text with its quotes. -/
def readQuoted (quote : Char) (c : Cursor) : Reading (Content × Cursor) := do
  let (codes, c) ← readQuotedFrom quote (c.rest.length + 1) c.next
  return (.ofCodes codes, c)

end TokenSplit.Yaml
