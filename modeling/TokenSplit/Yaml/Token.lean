import TokenSplit.Fault

/-!
# Tokens

The pieces of a document.  The beginnings and ends of blocks, which a document only shows by its
layout, are tokens as well.
-/

namespace TokenSplit.Yaml

/-- Why a document cannot be read: it is not well formed, or something in it is refused, or what
is asked for lies behind the place where cutting it into tokens broke off. -/
inductive Problem where
  | malformed
  | refused (fault : Fault)
  | brokenOff

/-- Results of reading. -/
abbrev Reading := Except Problem

/-- Gives up on a document that is not well formed. -/
def malformed {α : Type} : Reading α :=
  .error .malformed

/-- The text of a scalar: characters, or codes of which some are no characters. -/
inductive Content where
  | chars (s : String)
  | codes (c : List Nat)
deriving DecidableEq, Repr

instance : Coe String Content where
  coe := .chars

/-- The text that codes write. -/
def Content.ofCodes (codes : List Nat) : Content :=
  if codes.all fun n => decide n.isValidChar then .chars (String.ofList (codes.map Char.ofNat))
  else .codes codes

/-- A tag as written: in full, or as a handle and what follows it. -/
structure TagName where
  handle : Option String
  suffix : String
deriving DecidableEq, Repr

/-- The pieces of a document. -/
inductive Token where
  /-- A version directive. -/
  | version (major : Nat)
  /-- A directive that gives a handle its meaning. -/
  | handle (name meaning : String)
  /-- Any other directive. -/
  | directive
  /-- The mark that begins a document. -/
  | documentStart
  /-- The mark that ends a document. -/
  | documentEnd
  /-- The beginning of a block of entries. -/
  | blockSequence
  /-- The beginning of a block of keys and values. -/
  | blockMapping
  /-- The end of a block. -/
  | blockEnd
  /-- An opening bracket. -/
  | openSequence
  /-- A closing bracket. -/
  | closeSequence
  /-- An opening brace. -/
  | openMapping
  /-- A closing brace. -/
  | closeMapping
  /-- The beginning of a key. -/
  | key
  /-- The beginning of a value. -/
  | value
  /-- The beginning of an entry of a block. -/
  | entry
  /-- The comma between the entries inside brackets. -/
  | comma
  /-- A reference to a named node. -/
  | alias (name : String)
  /-- A name for the node that follows. -/
  | anchor (name : String)
  /-- A tag for the node that follows. -/
  | tag (name : TagName)
  /-- A text, and whether it is written without quotes and indicators. -/
  | scalar (text : Content) (plain : Bool)
  /-- The place where cutting broke off. -/
  | broken
deriving DecidableEq, Repr

namespace Token

/-- Whether a token begins a collection. -/
def opens : Token → Bool
  | .blockSequence => true
  | .blockMapping => true
  | .openSequence => true
  | .openMapping => true
  | _ => false

/-- Whether a token ends a collection. -/
def closes : Token → Bool
  | .blockEnd => true
  | .closeSequence => true
  | .closeMapping => true
  | _ => false

/-- The number of open collections behind a token. -/
def depthAfter (depth : Nat) (t : Token) : Nat :=
  if t.opens then depth + 1 else if t.closes then depth - 1 else depth

end Token

/-- The tokens of a document as far as it can be cut.  Where cutting broke off, the last token says
so, and `problem` says why. -/
structure Cut where
  tokens : List Token
  problem : Option Problem

namespace Cut

/-- The tokens of a document that can be cut to its end. -/
def whole (tokens : List Token) : Cut :=
  ⟨tokens, none⟩

/-- The place of the first token that begins a collection inside as many others as there may be. -/
def tooDeep? (limit : Nat) : Nat → List Token → Option Nat
  | _, [] => none
  | depth, t :: rest =>
    if t.opens && depth == limit then some 0
    else (tooDeep? limit (t.depthAfter depth) rest).map (· + 1)

/-- The tokens up to the first that begins a collection too many. -/
def within (limit : Nat) (cut : Cut) : Cut :=
  match tooDeep? limit 0 cut.tokens with
  | none => cut
  | some n => ⟨cut.tokens.take n ++ [.broken], some (.refused .endless)⟩

end Cut

end TokenSplit.Yaml
