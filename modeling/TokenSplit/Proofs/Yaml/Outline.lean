import TokenSplit.Host
import TokenSplit.Proofs.Text.Ascii
import TokenSplit.Proofs.Yaml.Numeral
import TokenSplit.Proofs.Yaml.Tree

/-!
# Outlines

A document may be an outline: labels with words behind them, or with further labels and words in
indented lines below them.  It is read as the mapping that it shows.
-/

namespace TokenSplit.Yaml

/-- A word and the scalar that it is by its form. -/
structure Leaf where
  word : List Char
  scalar : Scalar
  isWord : IsWord word
  reads : readScalar (Tag.ofPlain word) word = .ok scalar

namespace Leaf

/-- The decimal numeral of a number. -/
def numeral (n : Nat) (hn : Decimal.Writable n) : Leaf where
  word := Decimal.digits n
  scalar := .int n
  isWord := isWord_digits n
  reads := readScalar_digits hn

/-- A number in hexadecimal digits. -/
def hexadecimal (digits : List Char) (h : IsHexadecimal digits) : Leaf where
  word := '0' :: 'x' :: digits
  scalar := .int (Decimal.natural 16 digits)
  isWord := h.isWord
  reads := h.readScalar_eq

/-- The word for a flag. -/
def flag (b : Bool) : Leaf where
  word := if b then "true".toList else "false".toList
  scalar := .bool b
  isWord := by cases b <;> decide +kernel
  reads := by cases b <;> rfl

def text (l : Leaf) : List Char :=
  ' ' :: l.word

def tokens (l : Leaf) : List Token :=
  [.scalar (String.ofList l.word) true]

def tree (l : Leaf) : Tree :=
  .scalar none (Tag.ofPlain l.word) (String.ofList l.word)

def value (l : Leaf) : Value :=
  .scalar l.scalar

variable (l : Leaf)

theorem cuts (indent : Nat) : Scanner.Cuts indent l.text l.tokens :=
  Scanner.cuts_word l.isWord indent

theorem shallow (height : Nat) : Shallow height l.tokens :=
  shallow_singleton height rfl rfl

theorem parses : Tree.Parses l.tokens l.tree := by
  refine ⟨fun _ => rfl, fun handles fuel hfuel rest => ?_⟩
  obtain ⟨fuel, rfl⟩ : ∃ k, fuel = k + 1 := ⟨fuel - 1, by omega⟩
  have hnode := Tree.readNode_scalar handles .afterKey fuel
    (String.ofList l.word) rest
  rw [String.toList_ofList] at hnode
  exact hnode

section

variable {d : Document} {limit : Nat} (hlimit : d.limit = limit + 2)

include hlimit

theorem value_eq (depth : Nat) :
    d.value (depth + 1) l.tree = .ok l.value := by
  rw [tree, Document.value_scalar hlimit _ (isCollection_ofPlain _),
    String.toList_ofList, l.reads]
  rfl

theorem meet_eq (level : Document.Level) :
    d.meet level l.tree = .ok level := by
  rw [tree, Document.meet_scalar hlimit _ (isCollection_ofPlain _),
    String.toList_ofList, l.reads]
  rfl

theorem flat_block (b : Block Leaf) : d.Flat (blockTree tree b) := by
  intro level hlevel
  let P (level : Document.Level) : Prop := level.next = []
  have hmeet : ∀ e ∈ b.entries, ∀ level, P level →
      ∃ next, d.meet level (tree e.2) = .ok next ∧ P next :=
    fun e _ level hlevel => ⟨level, e.2.meet_eq hlimit level, hlevel⟩
  exact Document.exists_meetBelow_eq_ok hlimit hmeet hlevel

end

end Leaf

/-- What stands under a label of an outline: a word, or a block of labels and words. -/
inductive Item where
  | leaf (leaf : Leaf)
  | block (block : Block Leaf)

namespace Item

def text : Item → List Char
  | leaf l => l.text
  | block b => linesText Leaf.text 2 b.entries

def tokens : Item → List Token
  | leaf l => l.tokens
  | block b => blockTokens Leaf.tokens b

def tree : Item → Tree
  | leaf l => l.tree
  | block b => blockTree Leaf.tree b

def value : Item → Value
  | leaf l => l.value
  | block b => blockValue Leaf.value b

theorem cuts (item : Item) : Scanner.Cuts 0 item.text item.tokens := by
  cases item with
  | leaf l => exact l.cuts 0
  | block b => exact Scanner.cuts_block (by decide) fun e _ => e.2.cuts 2

theorem shallow (item : Item) : Shallow 1 item.tokens := by
  cases item with
  | leaf l => exact l.shallow 1
  | block b => exact shallow_block fun e _ => e.2.shallow 0

theorem parses (item : Item) : Tree.Parses item.tokens item.tree := by
  cases item with
  | leaf l => exact l.parses
  | block b => exact Tree.parses_block fun e _ => e.2.parses

theorem nameless (item : Item) : Tree.Nameless item.tree := by
  cases item with
  | leaf l => exact Tree.nameless_scalar _ _
  | block b => exact Tree.nameless_block fun e _ => Tree.nameless_scalar _ _

end Item

/-- Labels that each have a word behind them, or labels and words below them. -/
abbrev Outline := Block Item

namespace Outline

variable (o : Outline)

def text : List Char :=
  blockText Item.text o

def tree : Tree :=
  blockTree Item.tree o

/-- The mapping that an outline shows. -/
def value : Value :=
  blockValue Item.value o

def document : Document where
  root := o.tree
  names := []
  limit := o.tree.depthLimit

theorem ofTree?_tree : Document.ofTree? o.tree = some o.document := by
  have hnameless : Tree.Nameless o.tree :=
    Tree.nameless_block fun e _ => e.2.nameless
  simp only [Document.ofTree?, hnameless.scope_eq, hnameless.names_eq]
  rfl

/-- Only the blocks right below the root are left for the next level, and they are flat. -/
theorem check_eq : o.document.check = .ok () := by
  obtain ⟨limit, hlimit⟩ := o.tree.exists_depthLimit_eq
  let P (level : Document.Level) : Prop :=
    ∀ node ∈ level.next, o.document.Flat node
  have hmeet : ∀ e ∈ o.entries, ∀ level, P level →
      ∃ next, o.document.meet level e.2.tree = .ok next ∧ P next := by
    intro e _ level hlevel
    cases e.2 with
    | leaf l => exact ⟨level, l.meet_eq hlimit level, hlevel⟩
    | block b =>
        refine ⟨⟨level.met, blockTree Leaf.tree b :: level.next⟩, rfl, ?_⟩
        exact List.forall_mem_cons.mpr ⟨Leaf.flat_block hlimit b, hlevel⟩
  have hbelow : ∃ next,
      o.document.meetBelow ⟨[], []⟩ o.document.root = .ok next ∧ P next :=
    Document.exists_meetBelow_eq_ok hlimit hmeet (List.forall_mem_nil _)
  exact Document.check_eq_ok hlimit rfl hbelow

theorem value_eq : o.document.value shownDepth o.tree = .ok o.value := by
  obtain ⟨limit, hlimit⟩ := o.tree.exists_depthLimit_eq
  refine Document.value_block hlimit fun e _ => ?_
  cases e.2 with
  | leaf l => exact l.value_eq hlimit 2
  | block b => exact Document.value_block hlimit fun e _ => e.2.value_eq hlimit 1

end Outline

/-! ## Reading outlines -/

/-- Whether a character may stand in an outline. -/
def isOutlineChar (c : Char) : Bool :=
  isWordChar c || c == ':' || c == ' ' || c == '\n'

theorem isOutlineChar_of_isWord {w : List Char} (hw : IsWord w) :
    ∀ c ∈ w, isOutlineChar c := by
  intro c hc
  simp [isOutlineChar, hw.chars c hc]

theorem lt_of_isOutlineChar {c : Char} (hc : isOutlineChar c) :
    c.toNat < 128 := by
  simp only [isOutlineChar, Bool.or_eq_true, beq_iff_eq] at hc
  rcases hc with ((hc | rfl) | rfl) | rfl
  · exact lt_of_isWordChar hc
  · decide
  · decide
  · decide

theorem forall_outlineChar {p : Char → Prop}
    (hp : ∀ n < 128, isOutlineChar (Char.ofNat n) → p (Char.ofNat n))
    {c : Char} (hc : isOutlineChar c) : p c :=
  Text.forall_ascii (p := fun c => isOutlineChar c → p c) hp
    (lt_of_isOutlineChar hc) hc

theorem isOutlineChar_linesText {α : Type} {text : α → List Char}
    {entries : List (Label × α)}
    (hentries : ∀ e ∈ entries, ∀ c ∈ text e.2, isOutlineChar c)
    (indent : Nat) : ∀ c ∈ linesText text indent entries, isOutlineChar c := by
  intro c hc
  obtain ⟨e, he, hc⟩ := List.mem_flatMap.mp hc
  simp only [entryText, List.mem_cons, List.mem_append] at hc
  rcases hc with rfl | hc | hc | rfl | hc
  · rfl
  · rw [List.eq_of_mem_replicate hc]
    rfl
  · exact isOutlineChar_of_isWord e.1.isWord c hc
  · rfl
  · exact hentries e he c hc

theorem Leaf.isOutlineChar_text (l : Leaf) : ∀ c ∈ l.text, isOutlineChar c := by
  intro c hc
  rcases List.mem_cons.mp hc with rfl | hc
  · rfl
  · exact isOutlineChar_of_isWord l.isWord c hc

theorem isOutlineChar_outline (o : Outline) {ending : List Char}
    (hending : ending = [] ∨ ending = ['\n']) :
    ∀ c ∈ o.text ++ ending, isOutlineChar c := by
  intro c hc
  rcases List.mem_append.mp hc with hc | hc
  · refine isOutlineChar_linesText ?_ 0 c (List.mem_of_mem_tail hc)
    intro e he
    cases e.2 with
    | leaf l => exact l.isOutlineChar_text
    | block inner =>
        exact isOutlineChar_linesText (fun e _ => e.2.isOutlineChar_text) 2
  · rcases hending with rfl | rfl
    · cases hc
    · rw [List.mem_singleton.mp hc]
      rfl

theorem unifyLineEnds_of_forall {s : List Char} (hs : ∀ c ∈ s, c ≠ '\r') :
    Text.unifyLineEnds s = s := by
  induction s with
  | nil => rfl
  | cons c s ih =>
      have hrest := ih fun d hd => hs d (List.mem_cons_of_mem c hd)
      have hc : c ≠ '\r' := hs c List.mem_cons_self
      simp [Text.unifyLineEnds, hc, hrest]

/-- An outline is read as the mapping that it shows, and a line end behind it says nothing. -/
theorem read_outline (o : Outline) {ending : List Char}
    (hending : ending = [] ∨ ending = ['\n']) :
    read (o.text ++ ending) = .ok o.value := by
  have hchars : ∀ c ∈ o.text ++ ending, isAllowed c ∧ c ≠ '\r' := by
    intro c hc
    exact forall_outlineChar (p := fun c => isAllowed c ∧ c ≠ '\r')
      (by decide +kernel) (isOutlineChar_outline o hending c hc)
  have hlines := unifyLineEnds_of_forall fun c hc => (hchars c hc).2
  have hallowed : (o.text ++ ending).all isAllowed := by
    rw [List.all_eq_true]
    exact fun c hc => (hchars c hc).1
  have htokens : tokens (o.text ++ ending) =
      .whole (blockTokens Item.tokens o) :=
    Scanner.tokens_block (fun e _ => e.2.cuts) hending
  have hshallow : Shallow 2 (blockTokens Item.tokens o) :=
    shallow_block fun e _ => e.2.shallow
  have hwithin : (tokens (o.text ++ ending)).within nestingLimit =
      .whole (blockTokens Item.tokens o) := by
    rw [htokens, hshallow.within_eq (by decide)]
  have htree : (Cut.whole (blockTokens Item.tokens o)).tree =
      .ok (some o.tree) :=
    Cut.tree_of_ofTokens (Tree.ofTokens_block fun e _ => e.2.parses)
  simp only [read, hlines, hallowed, hwithin, htree, o.ofTree?_tree,
    o.check_eq, bind, Except.bind]
  exact o.value_eq

theorem decodeUtf8_outline (o : Outline) {ending : List Char}
    (hending : ending = [] ∨ ending = ['\n']) :
    Text.decodeUtf8 (Text.encodeUtf8 (o.text ++ ending)) =
      .ok (o.text ++ ending) :=
  Text.decodeUtf8_encodeUtf8 fun c hc =>
    lt_of_isOutlineChar (isOutlineChar_outline o hending c hc)

theorem reader_outline (o : Outline) {ending : List Char}
    (hending : ending = [] ∨ ending = ['\n']) :
    reader (Text.encodeUtf8 (o.text ++ ending)) = .ok o.value := by
  simp only [reader, decodeUtf8_outline o hending, read_outline o hending]

end TokenSplit.Yaml
