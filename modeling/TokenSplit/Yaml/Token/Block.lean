import TokenSplit.Yaml.Token.Name

/-!
# Block texts

Texts made of indented lines.  An indicator says whether line ends are kept or folded, and the
header may say how deep the lines are indented and what becomes of the line ends after the last.
-/

namespace TokenSplit.Yaml

/-- What becomes of the line ends after the last line: all go, one stays, or all stay. -/
inductive Chomping where
  | strip
  | clip
  | keep
deriving DecidableEq, Repr

/-- The header of a block text. -/
structure BlockHeader where
  chomping : Chomping
  increment : Option Nat

/-- The choice of chomping in a header, if there is one. -/
def readChomping (c : Cursor) : Option Chomping × Cursor :=
  match c.peek? with
  | some '+' => (some .keep, c.next)
  | some '-' => (some .strip, c.next)
  | _ => (none, c)

/-- The indentation in a header, if there is one; it may not be zero. -/
def readIncrement (c : Cursor) : Reading (Option Nat × Cursor) :=
  match c.peek? with
  | some x =>
    if x = '0' then malformed
    else if x.isDigit then .ok (some (x.toNat - 48), c.next)
    else .ok (none, c)
  | none => .ok (none, c)

/-- Reads a header, whose two parts may stand in either order. -/
def readBlockHeader (c : Cursor) : Reading (BlockHeader × Cursor) := do
  let (early, c) := readChomping c
  let (increment, c) ← readIncrement c
  let (late, c) := if early.isNone ∧ increment.isSome then readChomping c else (none, c)
  if !fieldEnds c.rest then malformed
  return (⟨(early.or late).getD .clip, increment⟩, ← endLine c)

/-- Steps over empty lines and gives their ends, together with the largest column reached. -/
def leadingLines : Nat → Nat → Cursor → List Char × Nat × Cursor
  | 0, deepest, c => ([], deepest, c)
  | fuel + 1, deepest, c =>
    let c := c.skipBlanks
    let deepest := max deepest c.column
    match c.lineBreak with
    | ([], c) => ([], deepest, c)
    | (x, c) =>
      let (breaks, deepest, c) := leadingLines fuel deepest c
      (x ++ breaks, deepest, c)

/-- Steps over empty lines and the indentation of the next one, and gives the line ends. -/
def blockBreaks (indent : Nat) : Nat → Cursor → List Char × Cursor
  | 0, c => ([], c)
  | fuel + 1, c =>
    match (c.skipIndent indent).lineBreak with
    | ([], c) => ([], c)
    | (x, c) =>
      let (breaks, c) := blockBreaks indent fuel c
      (x ++ breaks, c)

/-- Whether a line begins with a blank, which keeps it from being folded. -/
def startsBlank (c : Cursor) : Bool :=
  c.peek? == some ' ' || c.peek? == some '\t'

/-- The lines of a block text, from the first line on: its text, the end of its last line, and
the ends of the empty lines after it. -/
def readBlockLines (folded : Bool) (indent : Nat) :
    Nat → Cursor → List Char × List Char × List Char × Cursor
  | 0, c => ([], [], [], c)
  | fuel + 1, c =>
    let indented := startsBlank c
    let (line, c) := c.span fun x => !isBreak x
    let (lineEnd, c) := c.lineBreak
    let (breaks, c) := blockBreaks indent (c.rest.length + 1) c
    if c.column = indent ∧ !c.rest.isEmpty then
      let joined :=
        if folded ∧ lineEnd = ['\n'] ∧ !indented ∧ !startsBlank c then
          if breaks.isEmpty then [' '] else []
        else
          lineEnd
      let (text, lastEnd, trailing, c) := readBlockLines folded indent fuel c
      (line ++ joined ++ breaks ++ text, lastEnd, trailing, c)
    else
      (line, lineEnd, breaks, c)

/-- Reads a block text with its indicator; `margin` is the first column that belongs to the
block around it. -/
def readBlock (folded : Bool) (margin : Nat) (c : Cursor) : Reading (String × Cursor) := do
  let (header, c) ← readBlockHeader c.next
  let least := max margin 1
  let (breaks, indent, c) :=
    match header.increment with
    | none =>
      let (breaks, deepest, c) := leadingLines (c.rest.length + 1) 0 c
      (breaks, max least deepest, c)
    | some n =>
      let indent := least + n - 1
      let (breaks, c) := blockBreaks indent (c.rest.length + 1) c
      (breaks, indent, c)
  let (text, lastEnd, trailing, c) :=
    if c.column = indent ∧ !c.rest.isEmpty then
      let (text, lastEnd, trailing, c) := readBlockLines folded indent (c.rest.length + 1) c
      (breaks ++ text, lastEnd, trailing, c)
    else
      ([], [], breaks, c)
  let ending :=
    match header.chomping with
    | .strip => []
    | .clip => lastEnd
    | .keep => lastEnd ++ trailing
  return (String.ofList (text ++ ending), c)

end TokenSplit.Yaml
