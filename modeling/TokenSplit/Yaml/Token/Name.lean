import TokenSplit.Decimal.Numeral
import TokenSplit.Json
import TokenSplit.Text.Utf8
import TokenSplit.Yaml.Cursor
import TokenSplit.Yaml.Token

/-!
# Names in documents

The tokens that begin with an indicator and hold names: directives, anchors, aliases and tags.
-/

namespace TokenSplit.Yaml

/-- Whether a name of an anchor may end before a text. -/
def anchorEnds : List Char → Bool
  | [] => true
  | c :: rest => wordEnds (c :: rest) || "?:,]\x7d%@`".toList.contains c

/-- The name of an anchor or an alias after its indicator. -/
def readAnchor (c : Cursor) : Reading (String × Cursor) :=
  let (name, after) := c.next.span isNameChar
  if name.isEmpty || !anchorEnds after.rest then malformed
  else .ok (String.ofList name, after)

/-- Whether a character may stand in the body of a tag. -/
def isTagChar (c : Char) : Bool :=
  c.isAlphanum || "-;/?:@&=+$,_.!~*'()[]%".toList.contains c

/-- The octets of a tag body: a percent sign with two hexadecimal digits writes one octet, and
a run of them has to be a text of its own. -/
def unescapeTag : Nat → List Char → List UInt8 → Reading (List Char)
  | 0, _, _ => malformed
  | fuel + 1, '%' :: a :: b :: rest, run =>
    match Json.hexValue? a, Json.hexValue? b with
    | some a, some b => unescapeTag fuel rest (run ++ [UInt8.ofNat (a * 16 + b)])
    | _, _ => malformed
  | fuel + 1, s, run =>
    match Text.decodeUtf8 run with
    | .error _ => malformed
    | .ok decoded =>
      match s with
      | [] => .ok decoded
      | '%' :: _ => malformed
      | c :: rest => return decoded ++ c :: (← unescapeTag fuel rest [])

/-- The body of a tag, which may not be empty. -/
def readTagBody (c : Cursor) : Reading (String × Cursor) := do
  let (body, after) := c.span isTagChar
  if body.isEmpty then malformed
  else return (String.ofList (← unescapeTag (body.length + 1) body []), after)

/-- A tag handle: an exclamation mark, or a name between two of them. -/
def readHandle (c : Cursor) : Reading (String × Cursor) :=
  match c.rest with
  | '!' :: ' ' :: _ => .ok ("!", c.next)
  | '!' :: _ =>
    let (name, after) := c.next.span isNameChar
    if after.peek? = some '!' then .ok (String.ofList ('!' :: name ++ ['!']), after.next)
    else malformed
  | _ => malformed

/-- Whether a second exclamation mark stands in the word of a tag. -/
def hasHandle (s : List Char) : Bool :=
  (s.takeWhile fun c => !(c == ' ' || isBreak c)).contains '!'

/-- A tag with its indicator: in angle brackets, alone, or with a handle. -/
def readTag (c : Cursor) : Reading (TagName × Cursor) := do
  let (name, after) ←
    match c.rest.tail with
    | '<' :: _ => do
      let (body, after) ← readTagBody (c.advance 2)
      if after.peek? = some '>' then
        pure (TagName.mk none body, after.next)
      else
        malformed
    | rest => do
      if wordEnds rest then
        pure (TagName.mk none "!", c.next)
      else if hasHandle rest then
        let (handle, after) ← readHandle c
        let (body, after) ← readTagBody after
        pure (TagName.mk (some handle) body, after)
      else
        let (body, after) ← readTagBody c.next
        pure (TagName.mk (some "!") body, after)
  if fieldEnds after.rest then return (name, after)
  malformed

/-- The rest of a line on which only a comment may stand. -/
def endLine (c : Cursor) : Reading Cursor :=
  let c := c.skipBlanks.skipComment
  if lineEnds c.rest then .ok c.lineBreak.2 else malformed

/-- A number of a version. -/
def readVersionNumber (c : Cursor) : Reading (Nat × Cursor) :=
  let (digits, after) := c.span Char.isDigit
  if digits.isEmpty then malformed
  else if Decimal.digitLimit < digits.length then
    .error (.refused (.numeralRefused digits.length))
  else .ok (digits.foldl (fun n d => n * 10 + (d.toNat - 48)) 0, after)

/-- A directive with its indicator, up to the end of its line. -/
def readDirective (c : Cursor) : Reading (Token × Cursor) := do
  let (name, after) := c.next.span isNameChar
  if name.isEmpty || !fieldEnds after.rest then malformed
  let (token, after) ←
    if name = "YAML".toList then do
      let (major, after) ← readVersionNumber after.skipBlanks
      if after.peek? ≠ some '.' then malformed
      let (_, after) ← readVersionNumber after.next
      if !fieldEnds after.rest then malformed
      pure (Token.version major, after)
    else if name = "TAG".toList then do
      let (handle, after) ← readHandle after.skipBlanks
      if after.peek? ≠ some ' ' then malformed
      let (meaning, after) ← readTagBody after.skipBlanks
      if !fieldEnds after.rest then malformed
      pure (Token.handle handle meaning, after)
    else
      pure (Token.directive, after.skipWhile fun x => !isBreak x)
  return (token, ← endLine after)

end TokenSplit.Yaml
