import TokenSplit.Yaml.Token.Block
import TokenSplit.Yaml.Token.Plain
import TokenSplit.Yaml.Token.Quoted

/-!
# Cutting documents into tokens

A document is cut from front to back.  Indentation opens and closes blocks, and a text is known
to be a key only once the colon after it is found; until then its place among the tokens is kept
as a candidate, one for each depth of brackets.
-/

namespace TokenSplit.Yaml

/-- A place that may turn out to be the beginning of a key.  It has to if it is `required`:
nothing but a key may stand at the indentation of a block of keys. -/
structure Candidate where
  position : Nat
  required : Bool
  index : Nat
  line : Nat
  column : Nat

/-- What is known while a document is being cut: the tokens so far, the latest first, and their
number; the depth of brackets; the first column inside the current block, which is zero outside
of all blocks, and those of the blocks around it; whether a key may begin; the candidates. -/
structure Scanner where
  cursor : Cursor
  tokens : List Token
  size : Nat
  depth : Nat
  margin : Nat
  margins : List Nat
  keyAllowed : Bool
  candidates : List (Nat × Candidate)

namespace Scanner

/-- Before the first token. -/
def start (s : List Char) : Scanner where
  cursor := Cursor.start s
  tokens := []
  size := 0
  depth := 0
  margin := 0
  margins := []
  keyAllowed := true
  candidates := []

/-- Whether brackets are open. -/
def inFlow (s : Scanner) : Bool :=
  s.depth != 0

/-- Adds a token. -/
def push (t : Token) (s : Scanner) : Scanner :=
  { s with tokens := t :: s.tokens, size := s.size + 1 }

/-- Puts a token before the one at a position. -/
def insert (position : Nat) (t : Token) (s : Scanner) : Scanner :=
  let behind := s.size - position
  { s with tokens := s.tokens.take behind ++ t :: s.tokens.drop behind, size := s.size + 1 }

/-- Adds a token and steps over the characters that it is written with. -/
def pushWide (t : Token) (width : Nat) (s : Scanner) : Scanner :=
  { s.push t with cursor := s.cursor.advance width }

/-- Steps over blanks, comments and line ends; outside of brackets, a key may begin a line. -/
def skipToToken : Nat → Scanner → Scanner
  | 0, s => s
  | fuel + 1, s =>
    let c := s.cursor.skipBlanks.skipComment
    match c.lineBreak with
    | ([], c) => { s with cursor := c }
    | (_, c) => skipToToken fuel { s with cursor := c, keyAllowed := s.keyAllowed || !s.inFlow }

/-- Whether a candidate is on another line or too far back. -/
def isStale (s : Scanner) (k : Candidate) : Bool :=
  k.line != s.cursor.line || 1024 < s.cursor.index - k.index

/-- Drops the candidates that are on another line or too far back. -/
def dropStale (s : Scanner) : Reading Scanner :=
  if s.candidates.any fun k => s.isStale k.2 && k.2.required then malformed
  else .ok { s with candidates := s.candidates.filter fun k => !s.isStale k.2 }

/-- Drops the candidate at the current depth. -/
def dropCandidate (s : Scanner) : Reading Scanner :=
  match s.candidates.lookup s.depth with
  | none => .ok s
  | some k =>
    if k.required then malformed
    else .ok { s with candidates := s.candidates.filter fun k => k.1 != s.depth }

/-- Makes the current place a candidate, if a key may begin here. -/
def addCandidate (s : Scanner) : Reading Scanner := do
  if s.keyAllowed then
    let s ← s.dropCandidate
    let c := s.cursor
    let required := !s.inFlow && s.margin == c.column + 1
    let candidate : Candidate := ⟨s.size, required, c.index, c.line, c.column⟩
    return { s with candidates := (s.depth, candidate) :: s.candidates }
  else
    return s

/-- Closes the blocks whose margin is right of a margin. -/
def closeTo (margin : Nat) : List Nat → Scanner → Scanner
  | outer :: rest, s =>
    if margin < s.margin then
      closeTo margin rest { s.push .blockEnd with margin := outer, margins := rest }
    else s
  | [], s => s

/-- Closes the blocks that are indented deeper than a margin; inside brackets indentation means
nothing. -/
def unwind (margin : Nat) (s : Scanner) : Scanner :=
  if s.inFlow then s else s.closeTo margin s.margins

/-- Opens a block at a column that is deeper than the current block. -/
def openBlock (column : Nat) (s : Scanner) : Option Scanner :=
  if s.margin ≤ column then
    some { s with margin := column + 1, margins := s.margin :: s.margins }
  else
    none

/-- A mark or a directive: all blocks end before it. -/
def leaveBlocks (s : Scanner) : Reading Scanner := do
  let s ← (s.unwind 0).dropCandidate
  return { s with keyAllowed := false }

/-- An opening bracket or brace. -/
def openFlow (t : Token) (s : Scanner) : Reading Scanner := do
  let s ← s.addCandidate
  return { s.pushWide t 1 with depth := s.depth + 1, keyAllowed := true }

/-- A closing bracket or brace. -/
def closeFlow (t : Token) (s : Scanner) : Reading Scanner := do
  let s ← s.dropCandidate
  return { s.pushWide t 1 with depth := s.depth - 1, keyAllowed := false }

/-- A comma inside brackets. -/
def readComma (s : Scanner) : Reading Scanner := do
  let s ← s.dropCandidate
  return { s.pushWide .comma 1 with keyAllowed := true }

/-- Opens a block for an entry, a key or a value that begins at the current column. -/
def beginBlock (t : Token) (s : Scanner) : Reading Scanner :=
  if s.inFlow then .ok s
  else if !s.keyAllowed then malformed
  else
    match s.openBlock s.cursor.column with
    | some opened => .ok (opened.push t)
    | none => .ok s

/-- The indicator of an entry. -/
def readEntry (s : Scanner) : Reading Scanner := do
  let s ← s.beginBlock .blockSequence
  let s ← s.dropCandidate
  return { s.pushWide .entry 1 with keyAllowed := true }

/-- The indicator of a key. -/
def readKey (s : Scanner) : Reading Scanner := do
  let s ← s.beginBlock .blockMapping
  let s ← s.dropCandidate
  return { s.pushWide .key 1 with keyAllowed := !s.inFlow }

/-- Makes a candidate a key, which opens a block if it is deeper than the current one. -/
def settle (k : Candidate) (s : Scanner) : Scanner :=
  let s := { s with candidates := s.candidates.filter fun k => k.1 != s.depth }
  let s := s.insert k.position .key
  if s.inFlow then s
  else
    match s.openBlock k.column with
    | some opened => opened.insert k.position .blockMapping
    | none => s

/-- The indicator of a value; the candidate before it is a key. -/
def readValue (s : Scanner) : Reading Scanner := do
  match s.candidates.lookup s.depth with
  | some k => return { (s.settle k).pushWide .value 1 with keyAllowed := false }
  | none =>
    let s ← s.beginBlock .blockMapping
    return { s.pushWide .value 1 with keyAllowed := !s.inFlow }

/-- A token that may begin a key and whose end is known. -/
def pushName (t : Token) (after : Cursor) (s : Scanner) : Reading Scanner := do
  let s ← s.addCandidate
  return { s.push t with cursor := after, keyAllowed := false }

/-- A block text. -/
def pushBlock (folded : Bool) (s : Scanner) : Reading Scanner := do
  let s ← s.dropCandidate
  let (text, after) ← readBlock folded s.margin s.cursor
  return { s.push (.scalar text false) with cursor := after, keyAllowed := true }

/-- A quoted text. -/
def pushQuoted (quote : Char) (s : Scanner) : Reading Scanner := do
  let s ← s.addCandidate
  let (text, after) ← readQuoted quote s.cursor
  return { s.push (.scalar text false) with cursor := after, keyAllowed := false }

/-- A plain text. -/
def pushPlain (s : Scanner) : Reading Scanner := do
  let s ← s.addCandidate
  let plain := readPlain s.inFlow s.margin s.cursor
  return { s.push (.scalar (String.ofList plain.text) true) with
    cursor := plain.after, keyAllowed := plain.keyAllowed }

/-- Whether a character alone tells that no plain text begins with it. -/
def isIndicator (c : Char) : Bool :=
  "-?:,[]\x7b\x7d#&*!|>'\"%@`".toList.contains c

/-- Whether a plain text begins here. -/
def plainBegins (inFlow : Bool) : List Char → Bool
  | [] => false
  | c :: rest =>
    (!wordEnds (c :: rest) && !isIndicator c) ||
      (!wordEnds rest && (c == '-' || (!inFlow && (c == '?' || c == ':'))))

/-- Reads the token that begins with a character. -/
def readToken (c : Char) (rest : List Char) (s : Scanner) : Reading Scanner := do
  let atLineStart := s.cursor.column == 0
  let word := s.inFlow || wordEnds rest
  if atLineStart && c == '%' then
    let s ← s.leaveBlocks
    let (t, after) ← readDirective s.cursor
    return { s.push t with cursor := after }
  else if atLineStart && s.cursor.atMark '-' then
    return (← s.leaveBlocks).pushWide .documentStart 3
  else if atLineStart && s.cursor.atMark '.' then
    return (← s.leaveBlocks).pushWide .documentEnd 3
  else if c = '[' then s.openFlow .openSequence
  else if c = '{' then s.openFlow .openMapping
  else if c = ']' then s.closeFlow .closeSequence
  else if c = '}' then s.closeFlow .closeMapping
  else if c = ',' then s.readComma
  else if c = '-' ∧ wordEnds rest then s.readEntry
  else if c = '?' ∧ word then s.readKey
  else if c = ':' ∧ word then s.readValue
  else if c = '*' then
    let (name, after) ← readAnchor s.cursor
    s.pushName (.alias name) after
  else if c = '&' then
    let (name, after) ← readAnchor s.cursor
    s.pushName (.anchor name) after
  else if c = '!' then
    let (name, after) ← readTag s.cursor
    s.pushName (.tag name) after
  else if c = '|' ∧ !s.inFlow then s.pushBlock false
  else if c = '>' ∧ !s.inFlow then s.pushBlock true
  else if c = '\'' ∨ c = '"' then s.pushQuoted c
  else if plainBegins s.inFlow (c :: rest) then s.pushPlain
  else malformed

/-- Reads one token and the beginnings and ends of blocks before it, or finds the end. -/
def step (s : Scanner) : Reading (Scanner × Bool) := do
  let s := s.skipToToken (s.cursor.rest.length + 1)
  let s ← s.dropStale
  let s := s.unwind (s.cursor.column + 1)
  match s.cursor.rest with
  | [] => return (← (s.unwind 0).dropCandidate, true)
  | c :: rest => return (← s.readToken c rest, false)

/-- The tokens that no candidate can put a token in front of any more. -/
def settled (s : Scanner) : List Token :=
  let fresh := s.candidates.filter fun k => !s.isStale k.2
  s.tokens.reverse.take (fresh.foldl (fun position k => min position k.2.position) s.size)

/-- The tokens up to a problem: nobody who reads the settled ones comes to know of it. -/
def breakOff (problem : Problem) (s : Scanner) : Cut :=
  ⟨s.settled ++ [.broken], some problem⟩

/-- Reads all tokens. -/
def run : Nat → Scanner → Cut
  | 0, s => s.breakOff .malformed
  | fuel + 1, s =>
    match s.step with
    | .ok (s, true) => .whole s.tokens.reverse
    | .ok (s, false) => run fuel s
    | .error problem => s.breakOff problem

end Scanner

/-- The tokens of a document; a byte order mark in front of it means nothing. -/
def tokens (s : List Char) : Cut :=
  let first := Scanner.start s
  let first :=
    if s.head? = some byteOrderMark then { first with cursor := first.cursor.next } else first
  first.run (s.length + 2)

end TokenSplit.Yaml
