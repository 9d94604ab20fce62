import TokenSplit.Proofs.Yaml.Token
import TokenSplit.Yaml.Document

/-!
# Why documents are refused

What is refused while a document is read is accounted for: nodes, tags and scalars are refused
for causes of value or for stray ones, and no other cause arises on the way to the value of a
document.
-/

namespace TokenSplit.Yaml

namespace Tree

@[simp] theorem accounted_unexpected {α : Type} (tokens : List Token) :
    Accounted (unexpected tokens : Reading α) := by
  unfold unexpected
  split <;> simp

@[simp] theorem unexpected_ne_ok {α : Type} {tokens : List Token} {a : α} :
    (unexpected tokens : Reading α) ≠ .ok a := by
  unfold unexpected
  split <;> simp

@[simp] theorem accounted_fullName (handles : Handles) (tag : TagName) :
    Accounted (fullName handles tag) := by
  unfold fullName
  split
  · simp
  split <;> simp

@[simp] theorem accounted_givenTag (handles : Handles) (p : Properties) :
    Accounted (givenTag handles p) := by
  unfold givenTag
  split <;> simp

/-! ## Nodes -/

/-- All readers of nodes are accounted for as far as some fuel carries
them. -/
structure ReadersAccounted (handles : Handles) (fuel : Nat) : Prop where
  node : ∀ place tokens, Accounted (readNode handles place fuel tokens)
  items : ∀ tokens, Accounted (readItems handles fuel tokens)
  looseItems : ∀ tokens, Accounted (readLooseItems handles fuel tokens)
  entries : ∀ tokens, Accounted (readEntries handles fuel tokens)
  flowItems :
    ∀ first tokens, Accounted (readFlowItems handles first fuel tokens)
  flowEntries :
    ∀ first tokens, Accounted (readFlowEntries handles first fuel tokens)
  flowEntry :
    ∀ close tokens, Accounted (readFlowEntry handles close fuel tokens)

namespace ReadersAccounted

attribute [simp] node items looseItems entries flowItems flowEntries flowEntry

variable {handles : Handles} {fuel : Nat} (h : ReadersAccounted handles fuel)

include h

theorem node_succ (place : Place) (tokens : List Token) :
    Accounted (readNode handles place (fuel + 1) tokens) := by
  unfold readNode
  split
  · contradiction
  · simp
  next hfuel _ =>
    cases hfuel
    generalize readProperties _ = front
    obtain ⟨properties, rest⟩ := front
    simp only
    split
    · simp
    refine .bind (accounted_givenTag handles properties) ?_
    rintro ⟨given, marked⟩
    simp only
    split <;> simp [h]

theorem items_succ (tokens : List Token) :
    Accounted (readItems handles (fuel + 1) tokens) := by
  cases tokens with
  | nil => simp [readItems]
  | cons t rest => cases t <;> simp [readItems, h]

theorem looseItems_succ (tokens : List Token) :
    Accounted (readLooseItems handles (fuel + 1) tokens) := by
  cases tokens with
  | nil => simp [readLooseItems]
  | cons t rest => cases t <;> simp [readLooseItems, h]

theorem entries_succ (tokens : List Token) :
    Accounted (readEntries handles (fuel + 1) tokens) := by
  unfold readEntries
  split
  · contradiction
  next hfuel =>
    cases hfuel
    -- what follows the key is the same whether the key is written or not
    extract_lets afterKey
    have hafter : ∀ key, Accounted (afterKey key) := by
      rintro ⟨key, rest⟩
      simp only [afterKey]
      repeat' split
      all_goals simp [h]
    split <;> simp [h, hafter]
  · simp
  · simp

theorem flowItems_succ (first : Bool) (tokens : List Token) :
    Accounted (readFlowItems handles first (fuel + 1) tokens) := by
  unfold readFlowItems
  split
  · contradiction
  · simp
  next hfuel _ =>
    cases hfuel
    extract_lets afterComma
    have hafter : ∀ tokens, Accounted (afterComma tokens) := by
      intro tokens
      simp only [afterComma]
      split <;> simp [h]
    split
    · simp [hafter]
    split <;> simp [hafter]

theorem flowEntries_succ (first : Bool) (tokens : List Token) :
    Accounted (readFlowEntries handles first (fuel + 1) tokens) := by
  unfold readFlowEntries
  split
  · contradiction
  · simp
  next hfuel _ =>
    cases hfuel
    extract_lets afterComma
    have hafter : ∀ tokens, Accounted (afterComma tokens) := by
      intro tokens
      simp only [afterComma]
      split <;> simp [h]
    split
    · simp [hafter]
    split <;> simp [hafter]

theorem flowEntry_succ (close : Token) (tokens : List Token) :
    Accounted (readFlowEntry handles close (fuel + 1) tokens) := by
  unfold readFlowEntry
  extract_lets afterKey
  have hafter : ∀ key, Accounted (afterKey key) := by
    rintro ⟨key, rest⟩
    simp only [afterKey]
    split <;> simp [h]
  split <;> simp [h, hafter]

end ReadersAccounted

theorem readersAccounted (handles : Handles) (fuel : Nat) :
    ReadersAccounted handles fuel := by
  induction fuel with
  | zero =>
      constructor <;>
        simp [readNode, readItems, readLooseItems, readEntries, readFlowItems,
          readFlowEntries, readFlowEntry]
  | succ fuel ih =>
      exact ⟨ih.node_succ, ih.items_succ, ih.looseItems_succ, ih.entries_succ,
        ih.flowItems_succ, ih.flowEntries_succ, ih.flowEntry_succ⟩

@[simp] theorem accounted_readDirectives (version : Option Nat)
    (handles : Handles) (tokens : List Token) :
    Accounted (readDirectives version handles tokens) := by
  fun_induction readDirectives version handles tokens <;> simp_all

theorem accounted_ofTokens (tokens : List Token) :
    Accounted (ofTokens tokens) := by
  have hnode : ∀ handles place fuel tokens,
      Accounted (readNode handles place fuel tokens) := by
    intro handles place fuel
    exact (readersAccounted handles fuel).node place
  simp [ofTokens, hnode]

end Tree

theorem Cut.Accounted.tree {cut : Cut} (h : cut.Accounted) :
    Yaml.Accounted cut.tree := by
  have hTokens := Tree.accounted_ofTokens cut.tokens
  unfold Cut.tree
  split
  · split
    · exact h.error
    · simp
  · exact hTokens

namespace Tree

/-! ## Merged mappings -/

/-- Merging is accounted for, of one mapping and of several, as far as some
fuel carries it. -/
structure FlattenAccounted (names : Names) (fuel : Nat) : Prop where
  one : ∀ opened node, Accounted (flatten names opened fuel node)
  all : ∀ opened nodes, Accounted (flattenAll names opened fuel nodes)

theorem flattenAccounted (names : Names) (fuel : Nat) :
    FlattenAccounted names fuel := by
  induction fuel with
  | zero => constructor <;> simp [flatten, flattenAll]
  | succ fuel ih =>
      constructor
      case one =>
        intro opened node
        unfold flatten
        split <;> simp [ih.all]
      case all =>
        intro opened nodes
        cases nodes with
        | nil => simp [flattenAll]
        | cons value rest =>
            have hitems := Accounted.mapM (ih.one opened)
            simp only [flattenAll]
            split
            · simp [hitems, ih.all]
            · simp [ih.one, ih.all]

@[simp] theorem accounted_scalarText (names : Names) (fuel : Nat)
    (node : Tree) : Accounted (scalarText names fuel node) := by
  induction fuel generalizing node with
  | zero => simp [scalarText, Fault.IsStray]
  | succ fuel ih =>
      simp only [scalarText]
      split
      · simp
      · split <;> simp [ih]
      · simp

end Tree

/-! ## Scalars -/

theorem accounted_orRefused_iff {α : Type} {x : Except Fault α} :
    Accounted (orRefused x) ↔
      ∀ fault, x = .error fault → fault.family = .value ∨ fault.IsStray := by
  cases x <;> simp [orRefused]

@[simp] theorem accounted_integer (base : Nat) (s : List Char) :
    Accounted (orRefused (Decimal.integer base s)) := by
  rw [accounted_orRefused_iff]
  intro fault h
  unfold Decimal.integer at h
  simp only at h
  split at h
  · cases h
    exact .inl rfl
  split at h
  · cases h
    exact .inl rfl
  · cases h

@[simp] theorem accounted_float (s : List Char) :
    Accounted (orRefused (Decimal.float s)) := by
  rw [accounted_orRefused_iff]
  intro fault h
  unfold Decimal.float at h
  simp only at h
  split at h
  · cases h
  · cases h
    exact .inl rfl

/-- The weight of a part in base sixty can be too large for a binary number,
and nothing else can go wrong in the sum. -/
theorem eq_integerTooLarge_of_sumSixtieths {parts : List Float} {fault : Fault}
    (h : sumSixtieths parts = .error fault) : fault = .integerTooLarge := by
  unfold sumSixtieths at h
  generalize parts.zipIdx = weighted at h
  generalize (0.0 : Float) = sum at h
  induction weighted generalizing sum with
  | nil => cases h
  | cons part rest ih =>
      rw [List.foldlM_cons] at h
      cases hweight : Decimal.ofInt? (Int.pow 60 part.2) with
      | none =>
          simp only [hweight] at h
          cases h
          rfl
      | some weight =>
          simp only [hweight] at h
          exact ih _ h

@[simp] theorem accounted_sumSixtieths (parts : List Float) :
    Accounted (orRefused (sumSixtieths parts)) := by
  rw [accounted_orRefused_iff]
  intro fault h
  rw [eq_integerTooLarge_of_sumSixtieths h]
  exact .inr rfl

@[simp] theorem accounted_takeSign (s : List Char) :
    Accounted (takeSign s) := by
  unfold takeSign
  split <;> simp [Fault.IsStray]

@[simp] theorem accounted_readMagnitude (s : List Char) :
    Accounted (readMagnitude s) := by
  have hparts := Accounted.mapM (accounted_integer 10)
  unfold readMagnitude
  split <;> simp [hparts, Fault.IsStray]

@[simp] theorem accounted_readInt (s : List Char) : Accounted (readInt s) := by
  simp [readInt]

@[simp] theorem accounted_readFloat (s : List Char) :
    Accounted (readFloat s) := by
  have hparts := Accounted.mapM accounted_float
  simp [readFloat, hparts]

@[simp] theorem accounted_readBool (s : List Char) :
    Accounted (readBool s) := by
  simp [readBool, Fault.IsStray]

@[simp] theorem accounted_readStamp (s : List Char) :
    Accounted (readStamp s) := by
  simp only [readStamp]
  split
  · simp [Fault.IsStray]
  split <;> simp [Fault.family]

@[simp] theorem accounted_readOctets (place left pads : Nat) (s : List Char) :
    Accounted (readOctets place left pads s) := by
  fun_induction readOctets place left pads s <;> simp_all

@[simp] theorem accounted_readBinary (s : List Char) :
    Accounted (readBinary s) := by
  simp [readBinary]

@[simp] theorem accounted_readScalar (tag : Tag) (s : List Char) :
    Accounted (readScalar tag s) := by
  unfold readScalar
  split <;> simp

/-- A text with codes of no characters is refused as a flag for a stray cause, and as a number for
one of value. -/
@[simp] theorem accounted_readCodes (tag : Tag) (codes : List Nat) :
    Accounted (readCodes tag codes) := by
  unfold readCodes
  split <;> simp [Fault.family, Fault.IsStray]

@[simp] theorem accounted_readContent (tag : Tag) (text : Content) :
    Accounted (readContent tag text) := by
  cases text <;> simp [readContent]

/-! ## Documents -/

namespace Document

variable (d : Document)

@[simp] theorem accounted_scalar (node : Tree) : Accounted (d.scalar node) := by
  simp only [scalar]
  refine .bind (by simp) fun text => ?_
  split <;> simp [Fault.IsStray]

@[simp] theorem accounted_entries (node : Tree) :
    Accounted (d.entries node) :=
  (Tree.flattenAccounted d.names d.limit).one [] node

@[simp] theorem accounted_items (node : Tree) : Accounted (d.items node) := by
  unfold items
  split <;> simp

@[simp] theorem accounted_pair (node : Tree) : Accounted (d.pair node) := by
  unfold pair
  split <;> simp

@[simp] theorem accounted_meet (level : Level) (node : Tree) :
    Accounted (d.meet level node) := by
  unfold meet
  split <;> simp

@[simp] theorem accounted_meetKey (level : Level) (key : Tree) :
    Accounted (d.meetKey level key) := by
  simp [meetKey]

@[simp] theorem accounted_meetBelow (level : Level) (node : Tree) :
    Accounted (d.meetBelow level node) := by
  unfold meetBelow
  split <;>
    refine .bind (by simp) fun below => .foldlM ?_ level below <;> simp

@[simp] theorem accounted_checkLevels (fuel : Nat) (met : List String)
    (nodes : List Tree) : Accounted (d.checkLevels fuel met nodes) := by
  induction fuel generalizing met nodes with
  | zero => simp [checkLevels]
  | succ fuel ih =>
      cases nodes with
      | nil => simp [checkLevels]
      | cons node rest =>
          have hlevel := Accounted.foldlM d.accounted_meetBelow
          simp [checkLevels, ih, hlevel, -List.foldlM_cons]

@[simp] theorem accounted_check : Accounted d.check := by
  simp [check]

@[simp] theorem accounted_value (depth : Nat) (node : Tree) :
    Accounted (d.value depth node) := by
  induction depth generalizing node with
  | zero =>
      simp only [value]
      split <;> simp
  | succ depth ih =>
      simp only [value]
      split
      case h_6 => simp
      all_goals
        refine .bind (by simp) fun below => .bind (.mapM ?_ below) ?_ <;>
          simp [ih]

end Document

/-- Whatever text is read, it is refused for no other causes than those of
value and the stray ones. -/
theorem accounted_read (s : List Char) : Accounted (read s) := by
  simp only [read]
  split
  · simp
  refine .bind ((accounted_tokens _).within nestingLimit).tree fun tree => ?_
  split
  · simp
  split <;> simp

end TokenSplit.Yaml
