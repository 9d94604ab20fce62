import TokenSplit.Yaml.Cursor

/-!
# Plain texts

Texts without quotes.  They go on over line ends as long as the next line is indented enough; a
single line end becomes a blank, and of several all but the first are kept.
-/

namespace TokenSplit.Yaml

/-- The characters that separate entries inside brackets. -/
def isFlowMark (c : Char) : Bool :=
  c == ',' || c == '[' || c == ']' || c == '{' || c == '}'

/-- Whether a colon with this after it begins a value. -/
def valueFollows (inFlow : Bool) : List Char → Bool
  | [] => true
  | c :: rest => wordEnds (c :: rest) || (inFlow && isFlowMark c)

/-- The longest run of a plain text without blanks. -/
def plainRun (inFlow : Bool) : List Char → List Char
  | [] => []
  | c :: rest =>
    if wordEnds (c :: rest) then []
    else if c = ':' ∧ valueFollows inFlow rest then []
    else if inFlow ∧ (isFlowMark c ∨ c = '?') then []
    else c :: plainRun inFlow rest

/-- Steps over blank lines and indentation and gives the line ends; stops early, with nothing,
where a document ends. -/
def plainBreaks : Nat → Cursor → Option (List Char) × Cursor
  | 0, c => (some [], c)
  | fuel + 1, c =>
    let c := c.skipBlanks
    match c.lineBreak with
    | ([], c) => (some [], c)
    | (x, c) =>
      if c.atBoundary then (none, c)
      else
        let (rest, c) := plainBreaks fuel c
        (rest.map (x ++ ·), c)

/-- What stands between two runs of a plain text, and whether it goes over a line end. -/
def plainGap (c : Cursor) : List Char × Bool × Cursor :=
  let (blanks, c) := c.span (· == ' ')
  match c.lineBreak with
  | ([], c) => (blanks, false, c)
  | (first, c) =>
    if c.atBoundary then ([], true, c)
    else
      match plainBreaks (c.rest.length + 1) c with
      | (none, c) => ([], true, c)
      | (some breaks, c) =>
        let gap :=
          if first ≠ ['\n'] then first ++ breaks
          else if breaks.isEmpty then [' ']
          else breaks
        (gap, true, c)

/-- What has been read of a plain text: the text, whether a line end was the last thing that was
passed, and the place after it. -/
structure PlainText where
  text : List Char
  keyAllowed : Bool
  after : Cursor

/-- Reads on with a plain text after a gap; a line left of `margin` ends it. -/
def readPlainFrom (inFlow : Bool) (margin : Nat) :
    Nat → List Char → Bool → Cursor → PlainText
  | 0, _, keyAllowed, c => ⟨[], keyAllowed, c⟩
  | fuel + 1, gap, keyAllowed, c =>
    let run := plainRun inFlow c.rest
    if c.peek? = some '#' ∨ run.isEmpty then
      ⟨[], keyAllowed, c⟩
    else
      let (nextGap, crossed, after) := plainGap (c.advance run.length)
      if nextGap.isEmpty ∨ after.peek? = some '#' ∨ (!inFlow ∧ after.column < margin) then
        ⟨gap ++ run, crossed, after⟩
      else
        let rest := readPlainFrom inFlow margin fuel nextGap crossed after
        ⟨gap ++ run ++ rest.text, rest.keyAllowed, rest.after⟩

/-- Reads a plain text. -/
def readPlain (inFlow : Bool) (margin : Nat) (c : Cursor) : PlainText :=
  readPlainFrom inFlow margin (c.rest.length + 1) [] false c

end TokenSplit.Yaml
