import TokenSplit.Proofs.Result
import TokenSplit.Proofs.Value
import TokenSplit.Proofs.Yaml.Block
import TokenSplit.Yaml.Document

/-!
# Blocks as trees and as values

The tokens of a block are read as a mapping from the labels to what stands under them, and its
value is the mapping from their names to the values of that.  Both follow from what is under the
labels; that no label stands twice is what keeps every entry.
-/

namespace TokenSplit.Yaml

/-- The node of a label. -/
def Label.tree (l : Label) : Tree :=
  .scalar none .text l.name

section Entries

variable {α : Type} (tree : α → Tree)

/-- The entry of a tree, where `tree` is what is under its label. -/
def entryTree (e : Label × α) : Tree × Tree :=
  (e.1.tree, tree e.2)

/-- The tree of a block. -/
def blockTree (b : Block α) : Tree :=
  .mapping none .mapping (b.entries.map (entryTree tree))

/-- The value of a block. -/
def blockValue (value : α → Value) (b : Block α) : Value :=
  .mapping (b.entries.map fun e => (.text e.1.name, value e.2))

end Entries

namespace Tree

/-- Tokens behind a key that are read as a node, whatever comes after them. -/
structure Parses (tokens : List Token) (tree : Tree) : Prop where
  nonempty : ∀ rest, fieldIsEmpty (tokens ++ rest) = false
  readNode_eq : ∀ handles {fuel : Nat}, tokens.length < fuel → ∀ rest,
    readNode handles .afterKey fuel (tokens ++ rest) = .ok (tree, rest)

theorem readNode_scalar (handles : Handles) (place : Place) (fuel : Nat)
    (text : String) (rest : List Token) :
    readNode handles place (fuel + 1) (.scalar text true :: rest) =
      .ok (.scalar none (Tag.ofPlain text.toList) text, rest) := rfl

theorem readNode_block (handles : Handles) {place : Place}
    (hplace : place ≠ .flow) (fuel : Nat) (inner : List Token) :
    readNode handles place (fuel + 1) (.blockMapping :: inner) =
      (do
        let (entries, rest) ← readEntries handles fuel inner
        return (.mapping none .mapping entries, rest)) := by
  cases place with
  | flow => exact absurd rfl hplace
  | block => rfl
  | afterKey => rfl

section Entries

variable {α : Type} {tree : α → Tree} {tokens : α → List Token}

theorem readEntries_eq {entries : List (Label × α)}
    (hentries : ∀ e ∈ entries, Parses (tokens e.2) (tree e.2))
    (handles : Handles) {fuel : Nat}
    (hfuel : (entries.flatMap (entryTokens tokens)).length < fuel)
    (rest : List Token) :
    readEntries handles fuel
        (entries.flatMap (entryTokens tokens) ++ .blockEnd :: rest) =
      .ok (entries.map (entryTree tree), rest) := by
  induction entries generalizing fuel with
  | nil =>
      obtain ⟨fuel, rfl⟩ := Nat.exists_eq_succ_of_ne_zero (by omega : fuel ≠ 0)
      rfl
  | cons e entries ih =>
      simp only [List.flatMap_cons, List.length_append, entryTokens,
        List.length_cons] at hfuel
      obtain ⟨fuel, rfl⟩ : ∃ k, fuel = k + 2 := ⟨fuel - 2, by omega⟩
      let others := entries.flatMap (entryTokens tokens) ++ .blockEnd :: rest
      have he := hentries e List.mem_cons_self
      have hkey : readNode handles .afterKey (fuel + 1)
          (.scalar e.1.name true :: .value :: (tokens e.2 ++ others)) =
          .ok (e.1.tree, .value :: (tokens e.2 ++ others)) := by
        rw [readNode_scalar, Label.name, String.toList_ofList, e.1.isText]
        rfl
      have hvalue : readNode handles .afterKey (fuel + 1)
          (tokens e.2 ++ others) = .ok (tree e.2, others) :=
        he.readNode_eq handles (by omega) others
      have hothers : readEntries handles (fuel + 1) others =
          .ok (entries.map (entryTree tree), rest) :=
        ih (fun f hf => hentries f (List.mem_cons_of_mem e hf)) (by omega)
      have hlist : (e :: entries).flatMap (entryTokens tokens) ++
          .blockEnd :: rest =
          .key :: .scalar e.1.name true :: .value ::
            (tokens e.2 ++ others) := by
        simp [others, entryTokens]
      have hempty : fieldIsEmpty
          (.scalar e.1.name true :: .value :: (tokens e.2 ++ others)) =
            false := rfl
      rw [hlist]
      simp only [readEntries, hkey, hempty, he.nonempty, hvalue, hothers, bind,
        Except.bind, Bool.false_eq_true, if_false]
      rfl

theorem readNode_eq {b : Block α}
    (hentries : ∀ e ∈ b.entries, Parses (tokens e.2) (tree e.2))
    (handles : Handles) {place : Place} (hplace : place ≠ .flow) {fuel : Nat}
    (hfuel : (blockTokens tokens b).length < fuel) (rest : List Token) :
    readNode handles place fuel (blockTokens tokens b ++ rest) =
      .ok (blockTree tree b, rest) := by
  simp only [blockTokens, List.cons_append, List.length_cons,
    List.length_append] at hfuel
  obtain ⟨fuel, rfl⟩ : ∃ k, fuel = k + 1 := ⟨fuel - 1, by omega⟩
  have hread := readEntries_eq hentries handles
    (by omega : (b.entries.flatMap (entryTokens tokens)).length < fuel) rest
  have hlist : blockTokens tokens b ++ rest = .blockMapping ::
      (b.entries.flatMap (entryTokens tokens) ++ .blockEnd :: rest) := by
    simp [blockTokens]
  rw [hlist, readNode_block handles hplace, hread]
  rfl

theorem parses_block {b : Block α}
    (hentries : ∀ e ∈ b.entries, Parses (tokens e.2) (tree e.2)) :
    Parses (blockTokens tokens b) (blockTree tree b) :=
  ⟨fun _ => rfl, fun handles _ hfuel rest =>
    readNode_eq hentries handles (by decide) hfuel rest⟩

theorem ofTokens_block {b : Block α}
    (hentries : ∀ e ∈ b.entries, Parses (tokens e.2) (tree e.2)) :
    ofTokens (blockTokens tokens b) = .ok (some (blockTree tree b)) := by
  have hfuel : (blockTokens tokens b).length <
      4 * (blockTokens tokens b).length + 4 := by omega
  have hread := readNode_eq hentries standardHandles
    (by decide : Place.block ≠ .flow) hfuel []
  rw [List.append_nil] at hread
  have hempty : (blockTokens tokens b).isEmpty = false := rfl
  have hexplicit : isExplicit (blockTokens tokens b) = false := rfl
  simp only [ofTokens, hempty, hexplicit, hread, bind, Except.bind]
  rfl

end Entries

end Tree

/-- The tree of tokens that are read without breaking off. -/
theorem Cut.tree_of_ofTokens {cut : Cut} {tree : Option Tree}
    (h : Tree.ofTokens cut.tokens = .ok tree) : cut.tree = .ok tree := by
  simp only [Cut.tree, h]

namespace Tree

/-- A tree without names and references. -/
structure Nameless (t : Tree) : Prop where
  scope_eq : ∀ known, t.scope known = some known
  names_eq : t.names = []

theorem nameless_scalar (tag : Tag) (text : String) :
    Nameless (.scalar none tag text) := by
  refine ⟨fun known => ?_, ?_⟩
  · rw [scope, declare]
  · rw [names, named]

theorem nameless_block {α : Type} {tree : α → Tree} {b : Block α}
    (hentries : ∀ e ∈ b.entries, Nameless (tree e.2)) :
    Nameless (blockTree tree b) := by
  have hnodes : ∀ entries : List (Label × α),
      (∀ e ∈ entries, Nameless (tree e.2)) →
      (∀ known, scopeOfEntries known (entries.map (entryTree tree)) =
        some known) ∧
        namesOfEntries (entries.map (entryTree tree)) = [] := by
    intro entries hentries
    induction entries with
    | nil =>
        refine ⟨fun known => ?_, ?_⟩
        · rw [List.map_nil, scopeOfEntries]
        · rw [List.map_nil, namesOfEntries]
    | cons e entries ih =>
        obtain ⟨hscope, hnames⟩ :=
          ih fun f hf => hentries f (List.mem_cons_of_mem e hf)
        have hkey : Nameless e.1.tree := nameless_scalar .text e.1.name
        have hvalue := hentries e List.mem_cons_self
        refine ⟨fun known => ?_, ?_⟩
        · simp [entryTree, scopeOfEntries, hkey.scope_eq, hvalue.scope_eq,
            hscope]
        · simp [entryTree, namesOfEntries, hkey.names_eq, hvalue.names_eq,
            hnames]
  obtain ⟨hscope, hnames⟩ := hnodes b.entries hentries
  refine ⟨fun known => ?_, ?_⟩
  · simp [blockTree, scope, declare, hscope]
  · simp [blockTree, names, named, hnames]

theorem exists_depthLimit_eq (t : Tree) : ∃ limit, t.depthLimit = limit + 2 := by
  have hlimit : 2 * 2 ≤ t.depthLimit :=
    Nat.mul_le_mul (Nat.le_add_left 2 t.size)
      (Nat.le_add_left 2 t.names.length)
  exact ⟨t.depthLimit - 2, by omega⟩

end Tree

/-- No plain text is tagged as a collection. -/
theorem isCollection_ofPlain (s : List Char) :
    (Tag.ofPlain s).isCollection = false := by
  have hline (s : List Char) : (Tag.ofLine s).isCollection = false := by
    unfold Tag.ofLine
    repeat' split
    all_goals rfl
  unfold Tag.ofPlain
  split
  · exact hline _
  · exact hline _

namespace Document

section

variable {d : Document} {limit : Nat} (hlimit : d.limit = limit + 2)
  {tag : Tag} (text : String)

include hlimit

/-- The value of a plain scalar is what is read of it. -/
theorem scalar_scalar :
    d.scalar (.scalar none tag text) = readScalar tag text.toList := by
  simp [scalar, Tree.resolve, hlimit, Tree.scalarText, readContent, bind,
    Except.bind]

theorem value_scalar (htag : tag.isCollection = false) (depth : Nat) :
    d.value (depth + 1) (.scalar none tag text) =
      .scalar <$> readScalar tag text.toList := by
  rw [← scalar_scalar hlimit]
  cases tag with
  | sequence => cases htag
  | mapping => cases htag
  | set => cases htag
  | pairs => cases htag
  | omap => cases htag
  | _ => simp [value, Tree.resolve, Tree.tag]

theorem meet_scalar (htag : tag.isCollection = false) (level : Level) :
    d.meet level (.scalar none tag text) =
      (fun _ => level) <$> readScalar tag text.toList := by
  rw [← scalar_scalar hlimit]
  simp [meet, Tree.anchor?, Tree.resolve, Tree.tag, htag]

end

section Entries

variable {α : Type} {tree : α → Tree} {value : α → Value}
  {d : Document} {limit : Nat} (hlimit : d.limit = limit + 2)

include hlimit

theorem scalar_label (l : Label) : d.scalar l.tree = .ok (.text l.name) := by
  rw [Label.tree, scalar_scalar hlimit, readScalar, String.ofList_toList]

theorem meetKey_label (l : Label) (level : Level) :
    d.meetKey level l.tree = .ok level := by
  have hmeet := meet_scalar hlimit l.name (rfl : Tag.text.isCollection = false)
    level
  rw [readScalar] at hmeet
  simp only [meetKey, Label.tree, hmeet, bind, Except.bind]
  rfl

/-- No entry of a block brings in others. -/
theorem entries_block (b : Block α) :
    d.entries (blockTree tree b) = .ok (b.entries.map (entryTree tree)) := by
  have hkeys : ∀ e ∈ b.entries.map (entryTree tree),
      e.1.isMerge d.names = false ∧
        (e.1.keyAsText d.names, e.2) = e := by
    intro e he
    obtain ⟨f, -, rfl⟩ := List.mem_map.mp he
    exact ⟨rfl, rfl⟩
  have hmerged : (b.entries.map (entryTree tree)).filter
      (fun e => e.1.isMerge d.names) = [] := by
    simpa using fun e he => (hkeys e he).1
  have hown : Tree.ownEntries d.names (b.entries.map (entryTree tree)) =
      b.entries.map (entryTree tree) := by
    have hall : (b.entries.map (entryTree tree)).filter
        (fun e => !e.1.isMerge d.names) = b.entries.map (entryTree tree) := by
      rw [List.filter_eq_self]
      intro e he
      rw [(hkeys e he).1]
      rfl
    rw [Tree.ownEntries, hall]
    exact (List.map_congr_left fun e he => (hkeys e he).2).trans (List.map_id _)
  simp only [entries, hlimit, blockTree, Tree.flatten, Tree.resolve, hown,
    hmerged]
  rfl

theorem value_block {b : Block α} {depth : Nat}
    (hentries : ∀ e ∈ b.entries, d.value depth (tree e.2) = .ok (value e.2)) :
    d.value (depth + 1) (blockTree tree b) = .ok (blockValue value b) := by
  let read (e : Tree × Tree) : Reading (Scalar × Value) := do
    return (← d.scalar e.1, ← d.value depth e.2)
  have hread : (b.entries.map (entryTree tree)).mapM read =
      .ok (b.entries.map fun e => (.text e.1.name, value e.2)) := by
    rw [List.mapM_map]
    refine mapM_eq_ok fun e he => ?_
    have hkey := scalar_label hlimit e.1
    have hvalue := hentries e he
    simp only [Function.comp, read, entryTree, hkey, hvalue, bind, Except.bind]
    rfl
  have hdistinct : Value.DistinctKeys
      ([] ++ b.entries.map fun e => (.text e.1.name, value e.2)) := by
    have hwords := List.pairwise_map.mp b.distinct
    rw [List.nil_append, Value.DistinctKeys, List.pairwise_map]
    refine hwords.imp fun hne => ?_
    simpa [Scalar.same, Label.name, String.ofList_inj] using hne
  have hentries : d.entries (blockTree tree b) =
      .ok (b.entries.map (entryTree tree)) := entries_block hlimit b
  have hput := Value.foldl_putEntry_eq _ hdistinct
  have hvalue : d.value (depth + 1) (blockTree tree b) =
      (do
        let nodes ← d.entries (blockTree tree b)
        let entries ← nodes.mapM read
        return .mapping
          (entries.foldl (fun all e => Value.putEntry all e.1 e.2) [])) := by
    simp only [Document.value, blockTree, Tree.resolve, Tree.tag, read]
  rw [hvalue, hentries]
  simp only [bind, Except.bind, hread]
  rw [hput]
  rfl

/-- What the nodes below a block keep when they are met is kept below the block. -/
theorem exists_meetBelow_eq_ok {P : Level → Prop} {b : Block α}
    (hentries : ∀ e ∈ b.entries, ∀ level, P level →
      ∃ next, d.meet level (tree e.2) = .ok next ∧ P next)
    {level : Level} (hlevel : P level) :
    ∃ next, d.meetBelow level (blockTree tree b) = .ok next ∧ P next := by
  let meetEntry (level : Level) (e : Tree × Tree) : Reading Level := do
    d.meet (← d.meetKey level e.1) e.2
  have hbelow : d.meetBelow level (blockTree tree b) =
      (do
        let nodes ← d.entries (blockTree tree b)
        nodes.foldlM meetEntry level) := by
    simp only [meetBelow, blockTree, Tree.tag, meetEntry]
  rw [hbelow, entries_block hlimit]
  refine exists_foldlM_eq_ok ?_ hlevel
  intro node hnode level hlevel
  obtain ⟨e, he, rfl⟩ := List.mem_map.mp hnode
  obtain ⟨next, hnext, hkept⟩ := hentries e he level hlevel
  refine ⟨next, ?_, hkept⟩
  simp only [meetEntry, entryTree, meetKey_label hlimit, bind, Except.bind]
  exact hnext

end Entries

/-- A node with nothing but scalars below it. -/
def Flat (d : Document) (node : Tree) : Prop :=
  ∀ level : Level, level.next = [] →
    ∃ next, d.meetBelow level node = .ok next ∧ next.next = []

theorem checkLevels_flat {d : Document} {nodes : List Tree}
    (hnodes : ∀ node ∈ nodes, d.Flat node) (fuel : Nat) (met : List String) :
    d.checkLevels (fuel + 2) met nodes = .ok () := by
  cases nodes with
  | nil => rfl
  | cons node nodes =>
      obtain ⟨last, hlast, hnext⟩ := exists_foldlM_eq_ok
        (P := fun level : Level => level.next = []) (f := d.meetBelow)
        hnodes (b := ⟨met, []⟩) rfl
      simp only [checkLevels, hlast, hnext, bind, Except.bind]
      rfl

/-- A document is in order if all collections below its root are flat. -/
theorem check_eq_ok {d : Document} {limit : Nat} (hlimit : d.limit = limit + 2)
    (hroot : d.meet ⟨[], []⟩ d.root = .ok ⟨[], [d.root]⟩)
    (hbelow : ∃ next, d.meetBelow ⟨[], []⟩ d.root = .ok next ∧
      ∀ node ∈ next.next, d.Flat node) : d.check = .ok () := by
  obtain ⟨next, hnext, hflat⟩ := hbelow
  have hlevels : d.checkLevels (limit + 2) next.met next.next.reverse =
      .ok () := checkLevels_flat (by simpa using hflat) limit next.met
  simp only [check, hroot, hlimit, checkLevels, hnext, bind, Except.bind,
    List.reverse_singleton, List.foldlM_cons, List.foldlM_nil, pure,
    Except.pure]
  exact hlevels

end Document

end TokenSplit.Yaml
