import TokenSplit.Text.Printable

/-!
# Quoted text

Text between quotes on one line: apostrophes enclose it unless it holds an apostrophe and no
quotation mark, a backslash escapes, and every character that is not printable is written by its
code.  Octets are quoted by the same rules, with a mark in front.
-/

namespace TokenSplit.Text

/-- A number in lower-case hexadecimal digits, padded with zeros on the left. -/
def hexDigits (width n : Nat) : List Char :=
  let digits := Nat.toDigits 16 n
  List.replicate (width - digits.length) '0' ++ digits

/-- The quote that encloses a text. -/
def quoteFor (s : List Char) : Char :=
  if s.contains '\'' && !s.contains '"' then '"' else '\''

/-- The escape of a character by its code, in the shortest of three forms. -/
def escapeCode (n : Nat) : List Char :=
  if n < 0x100 then '\\' :: 'x' :: hexDigits 2 n
  else if n < 0x10000 then '\\' :: 'u' :: hexDigits 4 n
  else '\\' :: 'U' :: hexDigits 8 n

/-- How one character stands inside a quoted text. -/
def escapeChar (quote c : Char) : List Char :=
  if c = quote ∨ c = '\\' then ['\\', c]
  else if c = '\t' then ['\\', 't']
  else if c = '\n' then ['\\', 'n']
  else if c = '\r' then ['\\', 'r']
  else if isPrintable c then [c]
  else escapeCode c.toNat

/-- A text in quotes. -/
def quoted (s : List Char) : List Char :=
  let quote := quoteFor s
  quote :: s.flatMap (escapeChar quote) ++ [quote]

/-- A text given by its codes in quotes; codes of no characters are always escaped. -/
def quotedCodes (codes : List Nat) : List Char :=
  let quote := if codes.contains 0x27 && !codes.contains 0x22 then '"' else '\''
  let code (n : Nat) : List Char :=
    if n.isValidChar then escapeChar quote (Char.ofNat n) else escapeCode n
  quote :: codes.flatMap code ++ [quote]

/-- A text given by its codes without quotes; only codes of no characters are escaped. -/
def shownCodes (codes : List Nat) : List Char :=
  codes.flatMap fun n => if n.isValidChar then [Char.ofNat n] else escapeCode n

/-- Octets in quotes: the first 128 by the rules of text, the others by their code. -/
def quotedOctets (octets : List UInt8) : List Char :=
  let s := octets.map fun o => Char.ofNat o.toNat
  let quote := quoteFor s
  let octet (c : Char) : List Char :=
    if c.toNat < 0x80 then escapeChar quote c else escapeCode c.toNat
  'b' :: quote :: s.flatMap octet ++ [quote]

end TokenSplit.Text
