import TokenSplit.Console.Style

/-!
# Markup

Text with tags in brackets.  Tags open and close styles and are not shown; a backslash before a
tag makes it text, and two backslashes make one.  A tag that closes nothing is an error.
-/

namespace TokenSplit.Console.Markup

/-- A piece of a text with markup: characters, or a tag with what follows its equals sign. -/
inductive Piece where
  | text (s : List Char)
  | tag (name : List Char) (parameters : Option (List Char))

/-- Whether a bracket with this character after it may begin a tag. -/
def opensTag (c : Char) : Bool :=
  c.isLower || c == '#' || c == '/' || c == '@'

/-- The inside of the tag at the front of a text, whose opening bracket has been read, and what
follows the tag. -/
def inside? (s : List Char) : Option (List Char × List Char) :=
  let body := s.takeWhile fun c => c != '[' && c != ']'
  match body, s.drop body.length with
  | c :: _, ']' :: rest => if opensTag c then some (body, rest) else none
  | _, _ => none

/-- A tag, whose name ends at an equals sign. -/
def tagOf (body : List Char) : Piece :=
  let name := body.takeWhile (· != '=')
  .tag name (if name.length < body.length then some (body.drop (name.length + 1)) else none)

/-- Cuts a text into pieces.  Of the backslashes before a tag every two make one, and one that is
left over makes the tag text; before another bracket only the last backslash goes. -/
def pieces : Nat → List Char → List Piece
  | 0, _ => []
  | _ + 1, [] => []
  | fuel + 1, s@(c :: rest) =>
    let slashes := s.takeWhile (· == '\\')
    match s.drop slashes.length with
    | '[' :: afterBracket =>
      match inside? afterBracket with
      | some (body, afterTag) =>
        let shown := List.replicate (slashes.length / 2) '\\'
        if slashes.length % 2 = 1 then
          .text (shown ++ '[' :: body ++ [']']) :: pieces fuel afterTag
        else
          .text shown :: tagOf body :: pieces fuel afterTag
      | none => .text (slashes.dropLast ++ ['[']) :: pieces fuel afterBracket
    | afterSlashes =>
      if slashes.isEmpty then .text [c] :: pieces fuel rest
      else .text slashes :: pieces fuel afterSlashes

/-- An open tag: its name in standard form, and what followed its equals sign. -/
structure OpenTag where
  name : String
  parameters : Option (List Char)

/-- Takes away the latest open tag of a name. -/
def close? (name : String) : List OpenTag → Option (OpenTag × List OpenTag)
  | [] => none
  | tag :: rest =>
    if tag.name = name then some (tag, rest)
    else (close? name rest).map fun (found, others) => (found, tag :: others)

/-- Whether a character may stand in the name of a handler. -/
def isHandlerChar (c : Char) : Bool :=
  c.isAlphanum || c == '_' || c == '.'

/-- Whether a text is a number without a sign; a number without a point has no zero in front. -/
def isNumber (s : List Char) : Bool :=
  match s.dropWhile Char.isDigit with
  | [] => s == ['0'] || (!s.isEmpty && s.head? != some '0')
  | '.' :: fraction => 1 < s.length && fraction.all Char.isDigit
  | _ => false

/-- Whether a text is a literal: a number, a word for a flag or for nothing, or a quoted text
without quotes and backslashes inside. -/
def isLiteral (s : List Char) : Bool :=
  let s := Text.trim s
  let quoted (q : Char) : Bool :=
    2 ≤ s.length && s.head? == some q && s.getLast? == some q &&
      (s.drop 1).dropLast.all fun c => c != q && c != '\\' && c != '\n'
  let signed := s.head? == some '-' || s.head? == some '+'
  s == "True".toList || s == "False".toList || s == "None".toList ||
    isNumber (if signed then s.drop 1 else s) || quoted '\'' || quoted '"'

/-- The parts of a text between commas. -/
def commaParts : List Char → List (List Char)
  | [] => [[]]
  | c :: rest =>
    if c = ',' then [] :: commaParts rest
    else
      match commaParts rest with
      | [] => [[c]]
      | part :: others => (c :: part) :: others

/-- Whether what follows the equals sign of a handler tag can be read: nothing, a name, a name with
literals in parentheses, or literals alone. -/
def handlerReads (parameters : Option (List Char)) : Bool :=
  match parameters with
  | none => true
  | some p =>
    let p := Text.trim p
    let arguments := p.dropWhile isHandlerChar
    match arguments with
    | [] => true
    | '(' :: rest =>
      if rest = [')'] then true
      else rest.getLast? == some ')' && (commaParts rest.dropLast).all isLiteral
    | _ => (commaParts p).all isLiteral

/-- The text that is shown for pieces, unless a tag closes nothing or a handler cannot be read;
`opened` holds the open tags, the latest first. -/
def shown (opened : List OpenTag) : List Piece → Option (List Char)
  | [] => some []
  | .text s :: rest => (shown opened rest).map (s ++ ·)
  | .tag ('/' :: name) _ :: rest => do
    let bare := Text.trim name
    let (closed, opened) ←
      if bare.isEmpty then
        match opened with
        | tag :: others => some (tag, others)
        | [] => none
      else
        close? (Style.normalize bare) opened
    if closed.name.startsWith "@" && !handlerReads closed.parameters then none
    shown opened rest
  | .tag name parameters :: rest => shown (⟨Style.normalize name, parameters⟩ :: opened) rest

/-- Whether a character only steers a terminal and is never shown. -/
def isControl (c : Char) : Bool :=
  [7, 8, 11, 12, 13].contains c.toNat

/-- The text that is shown for a text with markup. -/
def plain? (s : List Char) : Option (List Char) :=
  (shown [] (pieces (s.length + 1) s)).map fun s => s.filter fun c => !isControl c

end TokenSplit.Console.Markup
