import TokenSplit.Yaml.Tag
import TokenSplit.Yaml.Token

/-!
# Trees

Documents as trees of tagged nodes.  References stay leaves, so a document that refers to itself
is a finite tree as well; every reference has to name a node that begins before it.
-/

namespace TokenSplit.Yaml

/-- A node of a document; a node may be named by an anchor. -/
inductive Tree where
  | scalar (anchor : Option String) (tag : Tag) (text : Content)
  | sequence (anchor : Option String) (tag : Tag) (items : List Tree)
  | mapping (anchor : Option String) (tag : Tag) (entries : List (Tree × Tree))
  | alias (name : String)
deriving Inhabited

namespace Tree

/-- The node that stands where nothing is written. -/
def empty : Tree :=
  .scalar none .null (.chars "")

/-- Gives up at a token that fits nowhere, or where the tokens break off. -/
def unexpected {α : Type} : List Token → Reading α
  | .broken :: _ => .error .brokenOff
  | _ => malformed

/-- What may stand where a node is read: inside brackets only nodes with brackets of their own,
elsewhere blocks, and after a key also entries at the indentation of the key. -/
inductive Place where
  | flow
  | block
  | afterKey
deriving DecidableEq, Repr

/-- What stands before the content of a node. -/
structure Properties where
  anchor : Option String
  tag : Option TagName

/-- Whether nothing more can stand before the content. -/
def Properties.isFull (p : Properties) : Bool :=
  p.anchor.isSome && p.tag.isSome

/-- Reads an anchor and a tag in either order, as far as they are there. -/
def readProperties : List Token → Properties × List Token
  | .anchor name :: .tag tag :: rest => (⟨some name, some tag⟩, rest)
  | .tag tag :: .anchor name :: rest => (⟨some name, some tag⟩, rest)
  | .anchor name :: rest => (⟨some name, none⟩, rest)
  | .tag tag :: rest => (⟨none, some tag⟩, rest)
  | rest => (⟨none, none⟩, rest)

/-- The meanings of handles. -/
abbrev Handles := List (String × String)

/-- The full name of a tag; a lone exclamation mark says no more than no tag. -/
def fullName (handles : Handles) : TagName → Reading String
  | ⟨none, suffix⟩ => .ok suffix
  | ⟨some handle, suffix⟩ =>
    match handles.lookup handle with
    | some meaning => .ok (meaning ++ suffix)
    | none => malformed

/-- The tag of a node, if it is written in full or with a handle. -/
def givenTag (handles : Handles) (p : Properties) : Reading (Option Tag × Bool) :=
  match p.tag with
  | none => .ok (none, false)
  | some tag => do
    let name ← fullName handles tag
    return if name = "!" then (none, true) else (some (Tag.ofName name), false)

/-- The tag of a text: a plain one is recognised by its form, and so is one with a lone
exclamation mark. -/
def textTag (given : Option Tag) (marked plain : Bool) : Content → Tag
  | .chars s => given.getD (if marked || plain then Tag.ofPlain s.toList else .text)
  | .codes _ => given.getD .text

/-- Whether an entry of a block is left empty. -/
def entryIsEmpty : List Token → Bool
  | .entry :: _ => true
  | .blockEnd :: _ => true
  | _ => false

/-- Whether an entry at the indentation of a key is left empty. -/
def looseEntryIsEmpty : List Token → Bool
  | .entry :: _ => true
  | .key :: _ => true
  | .value :: _ => true
  | .blockEnd :: _ => true
  | _ => false

/-- Whether a key or a value of a block is left empty. -/
def fieldIsEmpty : List Token → Bool
  | .key :: _ => true
  | .value :: _ => true
  | .blockEnd :: _ => true
  | _ => false

/-- Whether a key inside brackets or braces is left empty. -/
def flowKeyIsEmpty (close : Token) : List Token → Bool
  | .value :: _ => true
  | .comma :: _ => true
  | t :: _ => t == close
  | [] => false

/-- Whether a value inside brackets or braces is left empty. -/
def flowValueIsEmpty (close : Token) : List Token → Bool
  | .comma :: _ => true
  | t :: _ => t == close
  | [] => false

mutual

/-- Reads a node; `fuel` bounds the number of steps. -/
def readNode (handles : Handles) (place : Place) :
    Nat → List Token → Reading (Tree × List Token)
  | 0, _ => malformed
  | _ + 1, .alias name :: rest => .ok (.alias name, rest)
  | fuel + 1, tokens => do
    let (properties, rest) := readProperties tokens
    if !properties.isFull && rest.head? = some .broken then unexpected rest
    let (given, marked) ← givenTag handles properties
    let anchor := properties.anchor
    let otherwise : Reading (Tree × List Token) :=
      if properties.anchor.isSome || properties.tag.isSome then
        .ok (.scalar anchor (given.getD .null) (.chars ""), rest)
      else
        unexpected rest
    match rest with
    | .scalar text plain :: rest =>
      let isPlain := plain && properties.tag.isNone
      return (.scalar anchor (textTag given marked isPlain text) text, rest)
    | .openSequence :: rest =>
      let (items, rest) ← readFlowItems handles true fuel rest
      return (.sequence anchor (given.getD .sequence) items, rest)
    | .openMapping :: rest =>
      let (entries, rest) ← readFlowEntries handles true fuel rest
      return (.mapping anchor (given.getD .mapping) entries, rest)
    | .entry :: _ =>
      if place = .afterKey then
        let (items, rest) ← readLooseItems handles fuel rest
        return (.sequence anchor (given.getD .sequence) items, rest)
      else
        otherwise
    | .blockSequence :: inner =>
      if place = .flow then otherwise
      else
        let (items, rest) ← readItems handles fuel inner
        return (.sequence anchor (given.getD .sequence) items, rest)
    | .blockMapping :: inner =>
      if place = .flow then otherwise
      else
        let (entries, rest) ← readEntries handles fuel inner
        return (.mapping anchor (given.getD .mapping) entries, rest)
    | _ => otherwise

/-- Reads the entries of a block and its end. -/
def readItems (handles : Handles) : Nat → List Token → Reading (List Tree × List Token)
  | 0, _ => malformed
  | fuel + 1, .entry :: rest => do
    let (item, rest) ←
      if entryIsEmpty rest then pure (empty, rest) else readNode handles .block fuel rest
    let (items, rest) ← readItems handles fuel rest
    return (item :: items, rest)
  | _ + 1, .blockEnd :: rest => .ok ([], rest)
  | _ + 1, rest => unexpected rest

/-- Reads entries at the indentation of a key. -/
def readLooseItems (handles : Handles) : Nat → List Token → Reading (List Tree × List Token)
  | 0, _ => malformed
  | fuel + 1, .entry :: rest => do
    let (item, rest) ←
      if looseEntryIsEmpty rest then pure (empty, rest) else readNode handles .block fuel rest
    let (items, rest) ← readLooseItems handles fuel rest
    return (item :: items, rest)
  | _ + 1, rest => .ok ([], rest)

/-- Reads the keys and values of a block and its end. -/
def readEntries (handles : Handles) :
    Nat → List Token → Reading (List (Tree × Tree) × List Token)
  | 0, _ => malformed
  | fuel + 1, .key :: rest => do
    let (key, rest) ←
      if fieldIsEmpty rest then pure (empty, rest) else readNode handles .afterKey fuel rest
    let (value, rest) ←
      match rest with
      | .value :: rest =>
        if fieldIsEmpty rest then pure (empty, rest) else readNode handles .afterKey fuel rest
      | rest => pure (empty, rest)
    let (entries, rest) ← readEntries handles fuel rest
    return ((key, value) :: entries, rest)
  | _ + 1, .blockEnd :: rest => .ok ([], rest)
  | _ + 1, rest => unexpected rest

/-- Reads the items inside brackets and the closing bracket.  An item may be a single key with a
value. -/
def readFlowItems (handles : Handles) (first : Bool) :
    Nat → List Token → Reading (List Tree × List Token)
  | 0, _ => malformed
  | _ + 1, .closeSequence :: rest => .ok ([], rest)
  | fuel + 1, tokens => do
    let tokens ←
      if first then pure tokens
      else
        match tokens with
        | .comma :: rest => pure rest
        | rest => unexpected rest
    match tokens with
    | .key :: rest =>
      let ((key, value), rest) ← readFlowEntry handles .closeSequence fuel rest
      let (items, rest) ← readFlowItems handles false fuel rest
      return (.mapping none .mapping [(key, value)] :: items, rest)
    | .closeSequence :: rest => return ([], rest)
    | tokens =>
      let (item, rest) ← readNode handles .flow fuel tokens
      let (items, rest) ← readFlowItems handles false fuel rest
      return (item :: items, rest)

/-- Reads the entries inside braces and the closing brace.  A key may stand without a value. -/
def readFlowEntries (handles : Handles) (first : Bool) :
    Nat → List Token → Reading (List (Tree × Tree) × List Token)
  | 0, _ => malformed
  | _ + 1, .closeMapping :: rest => .ok ([], rest)
  | fuel + 1, tokens => do
    let tokens ←
      if first then pure tokens
      else
        match tokens with
        | .comma :: rest => pure rest
        | rest => unexpected rest
    match tokens with
    | .key :: rest =>
      let (entry, rest) ← readFlowEntry handles .closeMapping fuel rest
      let (entries, rest) ← readFlowEntries handles false fuel rest
      return (entry :: entries, rest)
    | .closeMapping :: rest => return ([], rest)
    | tokens =>
      let (key, rest) ← readNode handles .flow fuel tokens
      let (entries, rest) ← readFlowEntries handles false fuel rest
      return ((key, empty) :: entries, rest)

/-- Reads a key inside brackets or braces, after its indicator, and the value that follows it. -/
def readFlowEntry (handles : Handles) (close : Token) :
    Nat → List Token → Reading ((Tree × Tree) × List Token)
  | 0, _ => malformed
  | fuel + 1, tokens => do
    let (key, rest) ←
      if flowKeyIsEmpty close tokens then pure (empty, tokens)
      else readNode handles .flow fuel tokens
    match rest with
    | .value :: rest =>
      let (value, rest) ←
        if flowValueIsEmpty close rest then pure (empty, rest)
        else readNode handles .flow fuel rest
      return ((key, value), rest)
    | rest => return ((key, empty), rest)

end

/-- Reads the directives in front of a document and the mark after them.  There may be one
version, whose first number is one, and one meaning for each handle. -/
def readDirectives : Option Nat → Handles → List Token → Reading (Handles × List Token)
  | version, handles, .version major :: rest =>
    if version.isSome ∨ major ≠ 1 then malformed
    else readDirectives (some major) handles rest
  | version, handles, .handle name meaning :: rest =>
    if (handles.lookup name).isSome then malformed
    else readDirectives version (handles ++ [(name, meaning)]) rest
  | version, handles, .directive :: rest => readDirectives version handles rest
  | _, handles, .documentStart :: rest => .ok (handles, rest)
  | _, _, rest => unexpected rest

/-- The handles whose meaning need not be given. -/
def standardHandles : Handles :=
  [("!", "!"), ("!!", Tag.standard)]

/-- Whether a document with a mark in front of it is empty. -/
def contentIsEmpty : List Token → Bool
  | [] => true
  | .version _ :: _ => true
  | .handle _ _ :: _ => true
  | .directive :: _ => true
  | .documentStart :: _ => true
  | .documentEnd :: _ => true
  | _ => false

/-- Whether a token is a directive. -/
def isDirective : Token → Bool
  | .version _ => true
  | .handle _ _ => true
  | .directive => true
  | _ => false

/-- Whether a document begins with directives or a mark. -/
def isExplicit : List Token → Bool
  | .documentEnd :: _ => false
  | tokens => contentIsEmpty tokens

/-- The one document that tokens make, if there is any. -/
def ofTokens (tokens : List Token) : Reading (Option Tree) := do
  let fuel := 4 * tokens.length + 4
  if tokens.isEmpty then
    return none
  let (tree, rest) ←
    if isExplicit tokens then do
      let (handles, rest) ← readDirectives none [] tokens
      if contentIsEmpty rest then pure (empty, rest)
      else readNode (handles ++ standardHandles) .block fuel rest
    else
      readNode standardHandles .block fuel tokens
  let rest := rest.dropWhile (· == .documentEnd)
  if rest.isEmpty then return some tree
  unexpected (rest.dropWhile isDirective)

end Tree

end TokenSplit.Yaml
