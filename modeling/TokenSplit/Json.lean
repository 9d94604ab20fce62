import TokenSplit.Decimal.Numeral
import TokenSplit.Text.Quoted

/-!
# Documents of data interchange

Values of the interchange format that have no numbers but integers, with their entries in written
order, a printer and a reader.  The printer writes one blank after every comma and colon and
escapes all that is outside printable ASCII, so that what it writes is always one line.
-/

namespace TokenSplit

/-- A document; the entries of a mapping keep the order in which they are written. -/
inductive Json where
  | null
  | bool (b : Bool)
  | int (n : Int)
  | text (s : String)
  | list (items : List Json)
  | mapping (entries : List (String × Json))
deriving Inhabited

namespace Json

/-- A code unit of sixteen bits in an escape. -/
def escapeUnit (n : Nat) : List Char :=
  '\\' :: 'u' :: Text.hexDigits 4 n

/-- How one character stands inside a written text. -/
def escapeChar (c : Char) : List Char :=
  let n := c.toNat
  if c = '"' then ['\\', '"']
  else if c = '\\' then ['\\', '\\']
  else if c = '\n' then ['\\', 'n']
  else if c = '\r' then ['\\', 'r']
  else if c = '\t' then ['\\', 't']
  else if n = 0x0C then ['\\', 'f']
  else if n = 0x08 then ['\\', 'b']
  else if 0x20 ≤ n ∧ n < 0x7F then [c]
  else if n < 0x10000 then escapeUnit n
  else
    escapeUnit (0xD800 + (n - 0x10000) / 0x400) ++ escapeUnit (0xDC00 + (n - 0x10000) % 0x400)

/-- A written text. -/
def printText (s : List Char) : List Char :=
  '"' :: s.flatMap escapeChar ++ ['"']

/-- Parts one after another with a comma and a blank between them. -/
def separated : List (List Char) → List Char
  | [] => []
  | [part] => part
  | part :: next :: rest => part ++ ',' :: ' ' :: separated (next :: rest)

mutual

/-- The written form of a document. -/
def print : Json → List Char
  | .null => ['n', 'u', 'l', 'l']
  | .bool true => ['t', 'r', 'u', 'e']
  | .bool false => ['f', 'a', 'l', 's', 'e']
  | .int n => Decimal.signed n (Decimal.digits n.natAbs)
  | .text s => printText s.toList
  | .list items => '[' :: separated (printItems items) ++ [']']
  | .mapping entries => '{' :: separated (printEntries entries) ++ ['}']

/-- The written forms of the items of a list. -/
def printItems : List Json → List (List Char)
  | [] => []
  | item :: rest => print item :: printItems rest

/-- The written forms of the entries of a mapping. -/
def printEntries : List (String × Json) → List (List Char)
  | [] => []
  | (key, value) :: rest =>
    (printText key.toList ++ ':' :: ' ' :: print value) :: printEntries rest

end

/-- The value of a hexadecimal digit. -/
def hexValue? (c : Char) : Option Nat :=
  let n := c.toNat
  if 48 ≤ n ∧ n ≤ 57 then some (n - 48)
  else if 97 ≤ n ∧ n ≤ 102 then some (n - 87)
  else if 65 ≤ n ∧ n ≤ 70 then some (n - 55)
  else none

/-- The code unit that four hexadecimal digits write, and what follows them. -/
def unit? : List Char → Option (Nat × List Char)
  | a :: b :: c :: d :: rest => do
    let a ← hexValue? a
    let b ← hexValue? b
    let c ← hexValue? c
    let d ← hexValue? d
    return (((a * 16 + b) * 16 + c) * 16 + d, rest)
  | _ => none

/-- The character of an escape, and what follows the escape: one code unit, or a pair of them
for a character beyond sixteen bits. -/
def escapedUnit? (s : List Char) : Option (Char × List Char) := do
  let (high, rest) ← unit? s
  if high < 0xD800 ∨ 0xDFFF < high then
    return (Char.ofNat high, rest)
  match rest with
  | '\\' :: 'u' :: rest =>
    let (low, rest) ← unit? rest
    if high < 0xDC00 ∧ 0xDC00 ≤ low ∧ low ≤ 0xDFFF then
      return (Char.ofNat (0x10000 + (high - 0xD800) * 0x400 + (low - 0xDC00)), rest)
    else none
  | _ => none

/-- The rest of a written text whose first quote has been read, and what follows it. -/
def readText : Nat → List Char → Option (List Char × List Char)
  | 0, _ => none
  | _ + 1, '"' :: rest => some ([], rest)
  | fuel + 1, '\\' :: 'u' :: rest => do
    let (c, rest) ← escapedUnit? rest
    let (tail, rest) ← readText fuel rest
    return (c :: tail, rest)
  | fuel + 1, '\\' :: mark :: rest => do
    let c ← match mark with
      | '"' => some '"'
      | '\\' => some '\\'
      | '/' => some '/'
      | 'n' => some '\n'
      | 'r' => some '\r'
      | 't' => some '\t'
      | 'f' => some '\x0c'
      | 'b' => some '\x08'
      | _ => none
    let (tail, rest) ← readText fuel rest
    return (c :: tail, rest)
  | fuel + 1, c :: rest => do
    if c.toNat < 0x20 then none
    let (tail, rest) ← readText fuel rest
    return (c :: tail, rest)
  | _ + 1, [] => none

/-- Whether a character may stand between the parts of a document. -/
def isGap (c : Char) : Bool :=
  c == ' ' || c == '\t' || c == '\n' || c == '\r'

/-- Skips what may stand between the parts of a document. -/
def skip (s : List Char) : List Char :=
  s.dropWhile isGap

/-- The digits at the front of a text as an integer, without leading zeros. -/
def readDigits (s : List Char) : Option (Nat × List Char) :=
  let digits := s.takeWhile Char.isDigit
  match digits with
  | [] => none
  | '0' :: _ :: _ => none
  | digits =>
    some (digits.foldl (fun n c => n * 10 + (c.toNat - 48)) 0, s.dropWhile Char.isDigit)

/-- Drops an expected word. -/
def expect : List Char → List Char → Option (List Char)
  | [], s => some s
  | w :: ws, c :: cs => if w = c then expect ws cs else none
  | _ :: _, [] => none

mutual

/-- Reads the document at the front of a text; `fuel` bounds the number of steps. -/
def readValue : Nat → List Char → Option (Json × List Char)
  | 0, _ => none
  | fuel + 1, s =>
    match skip s with
    | 'n' :: rest => (expect ['u', 'l', 'l'] rest).map fun rest => (.null, rest)
    | 't' :: rest => (expect ['r', 'u', 'e'] rest).map fun rest => (.bool true, rest)
    | 'f' :: rest => (expect ['a', 'l', 's', 'e'] rest).map fun rest => (.bool false, rest)
    | '"' :: rest => (readText rest.length rest).map fun (s, rest) => (.text (String.ofList s), rest)
    | '-' :: rest => (readDigits rest).map fun (n, rest) => (.int (-(n : Int)), rest)
    | '[' :: rest =>
      match skip rest with
      | ']' :: rest => some (.list [], rest)
      | rest => (readItems fuel rest).map fun (items, rest) => (.list items, rest)
    | '{' :: rest =>
      match skip rest with
      | '}' :: rest => some (.mapping [], rest)
      | rest => (readEntries fuel rest).map fun (entries, rest) => (.mapping entries, rest)
    | rest => (readDigits rest).map fun (n, rest) => (.int n, rest)

/-- Reads the items of a list and the bracket after them. -/
def readItems : Nat → List Char → Option (List Json × List Char)
  | 0, _ => none
  | fuel + 1, s => do
    let (item, rest) ← readValue fuel s
    match skip rest with
    | ',' :: rest =>
      let (items, rest) ← readItems fuel rest
      return (item :: items, rest)
    | ']' :: rest => return ([item], rest)
    | _ => none

/-- Reads the entries of a mapping and the brace after them. -/
def readEntries : Nat → List Char → Option (List (String × Json) × List Char)
  | 0, _ => none
  | fuel + 1, s =>
    match skip s with
    | '"' :: rest => do
      let (key, rest) ← readText rest.length rest
      match skip rest with
      | ':' :: rest =>
        let (value, rest) ← readValue fuel rest
        let entry := (String.ofList key, value)
        match skip rest with
        | ',' :: rest =>
          let (entries, rest) ← readEntries fuel rest
          return (entry :: entries, rest)
        | '}' :: rest => return ([entry], rest)
        | _ => none
      | _ => none
    | _ => none

end

/-- Reads a text that is one document and nothing else. -/
def parse? (s : List Char) : Option Json := do
  let (value, rest) ← readValue (2 * s.length + 1) s
  if (skip rest).isEmpty then some value else none

end Json

end TokenSplit
