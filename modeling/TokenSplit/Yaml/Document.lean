import TokenSplit.Text.Utf8
import TokenSplit.Value
import TokenSplit.Yaml.Scalar
import TokenSplit.Yaml.Token.Scan
import TokenSplit.Yaml.Tree

/-!
# Documents

The value of a document.  Its nodes are first checked level by level, so that of several faults
the one nearest to the root is reported, and of those the first; then the value is put together.
Keys have to be scalars; a merge key brings in the entries of other mappings, which come before
the mapping's own.
-/

namespace TokenSplit.Yaml

/-- The named nodes of a document. -/
abbrev Names := List (String × Tree)

namespace Tree

/-- A node under its name, if it has one. -/
def named (anchor : Option String) (node : Tree) : Names :=
  match anchor with
  | some name => [(name, node)]
  | none => []

mutual

/-- The named nodes in the order in which they begin. -/
def names : Tree → Names
  | .scalar anchor tag text => named anchor (.scalar anchor tag text)
  | .sequence anchor tag items => named anchor (.sequence anchor tag items) ++ namesOfItems items
  | .mapping anchor tag entries =>
    named anchor (.mapping anchor tag entries) ++ namesOfEntries entries
  | .alias _ => []

/-- The named nodes of items. -/
def namesOfItems : List Tree → Names
  | [] => []
  | item :: rest => names item ++ namesOfItems rest

/-- The named nodes of entries. -/
def namesOfEntries : List (Tree × Tree) → Names
  | [] => []
  | (key, value) :: rest => names key ++ names value ++ namesOfEntries rest

end

/-- Takes up a name, which may not be taken already. -/
def declare (known : List String) : Option String → Option (List String)
  | none => some known
  | some name => if known.contains name then none else some (name :: known)

mutual

/-- The names known after a node, if names are unique and all references are to known names. -/
def scope (known : List String) : Tree → Option (List String)
  | .scalar anchor _ _ => declare known anchor
  | .sequence anchor _ items => do scopeOfItems (← declare known anchor) items
  | .mapping anchor _ entries => do scopeOfEntries (← declare known anchor) entries
  | .alias name => if known.contains name then some known else none

/-- The names known after items. -/
def scopeOfItems (known : List String) : List Tree → Option (List String)
  | [] => some known
  | item :: rest => do scopeOfItems (← scope known item) rest

/-- The names known after entries. -/
def scopeOfEntries (known : List String) : List (Tree × Tree) → Option (List String)
  | [] => some known
  | (key, value) :: rest => do scopeOfEntries (← scope (← scope known key) value) rest

end

mutual

/-- The number of nodes. -/
def size : Tree → Nat
  | .scalar _ _ _ => 1
  | .sequence _ _ items => sizeOfItems items + 1
  | .mapping _ _ entries => sizeOfEntries entries + 1
  | .alias _ => 1

/-- The number of nodes of items. -/
def sizeOfItems : List Tree → Nat
  | [] => 0
  | item :: rest => size item + sizeOfItems rest

/-- The number of nodes of entries. -/
def sizeOfEntries : List (Tree × Tree) → Nat
  | [] => 0
  | (key, value) :: rest => size key + size value + sizeOfEntries rest

end

/-- The name of a node. -/
def anchor? : Tree → Option String
  | .scalar anchor _ _ => anchor
  | .sequence anchor _ _ => anchor
  | .mapping anchor _ _ => anchor
  | .alias name => some name

/-- The tag of a node. -/
def tag : Tree → Tag
  | .scalar _ tag _ => tag
  | .sequence _ tag _ => tag
  | .mapping _ tag _ => tag
  | .alias _ => .unknown

/-- The node that a reference stands for; any other node stands for itself. -/
def resolve (names : Names) : Tree → Tree
  | .alias name => (names.lookup name).getD (.alias name)
  | node => node

/-- The text of a node that is tagged as a scalar: its own, or in a mapping that of the value
under an equals sign. -/
def scalarText (names : Names) : Nat → Tree → Reading Content
  | 0, _ => .error (.refused .endless)
  | fuel + 1, node =>
    match node.resolve names with
    | .scalar _ _ text => .ok text
    | .mapping _ _ entries =>
      match entries.find? fun e => (e.1.resolve names).tag == .value with
      | some (_, value) => scalarText names fuel value
      | none => malformed
    | _ => malformed

/-- An equals sign as a key is a text. -/
def keyAsText (names : Names) (key : Tree) : Tree :=
  match key.resolve names with
  | .scalar anchor .value text => .scalar anchor .text text
  | _ => key

/-- Whether a key brings in the entries of other mappings. -/
def isMerge (names : Names) (key : Tree) : Bool :=
  (key.resolve names).tag == .merge

/-- The entries that a mapping has itself. -/
def ownEntries (names : Names) (entries : List (Tree × Tree)) : List (Tree × Tree) :=
  (entries.filter fun e => !e.1.isMerge names).map fun e => (e.1.keyAsText names, e.2)

mutual

/-- The entries of a mapping with those it brings in, which come first.  A mapping that is
brought into itself adds its own entries only; `opened` holds the names of those that are being
looked through. -/
def flatten (names : Names) (opened : List String) : Nat → Tree → Reading (List (Tree × Tree))
  | 0, _ => malformed
  | fuel + 1, node =>
    match node.resolve names with
    | .mapping anchor _ entries => do
      let own := ownEntries names entries
      if anchor.any opened.contains then return own
      let merged ← flattenAll names (anchor.toList ++ opened) fuel
        ((entries.filter fun e => e.1.isMerge names).map (·.2))
      return merged ++ own
    | _ => malformed

/-- The entries that the values of merge keys bring in: mappings, or lists of mappings, of which
the first counts most. -/
def flattenAll (names : Names) (opened : List String) :
    Nat → List Tree → Reading (List (Tree × Tree))
  | 0, _ => malformed
  | _ + 1, [] => .ok []
  | fuel + 1, value :: rest => do
    let entries ←
      match value.resolve names with
      | .sequence _ _ items => do
        let parts ← items.mapM fun item => flatten names opened fuel item
        pure parts.reverse.flatten
      | node => flatten names opened fuel node
    return entries ++ (← flattenAll names opened fuel rest)

end

/-- A bound on the depth of a walk that follows every reference at most once. -/
def depthLimit (node : Tree) : Nat :=
  (node.size + 2) * (node.names.length + 2)

end Tree

/-- Whether values under a tag are put together from the nodes below. -/
def Tag.isCollection : Tag → Bool
  | .sequence => true
  | .mapping => true
  | .set => true
  | .pairs => true
  | .omap => true
  | _ => false

/-- A document: its root, its named nodes, and a bound on walks through it. -/
structure Document where
  root : Tree
  names : Names
  limit : Nat

namespace Document

/-- The document of a tree whose references are all in order. -/
def ofTree? (tree : Tree) : Option Document := do
  let _ ← tree.scope []
  return ⟨tree, tree.names, tree.depthLimit⟩

/-- The value of a node that is tagged as a scalar. -/
def scalar (d : Document) (node : Tree) : Reading Scalar := do
  let node := node.resolve d.names
  let text ← node.scalarText d.names d.limit
  match node with
  | .scalar _ tag _ => readContent tag text
  | _ =>
    if node.tag = .stamp then .error (.refused .momentNotText)
    else readContent node.tag text

/-- The entries of a node that is tagged as a mapping. -/
def entries (d : Document) (node : Tree) : Reading (List (Tree × Tree)) :=
  node.flatten d.names [] d.limit

/-- The items of a node that is tagged as a sequence. -/
def items (d : Document) (node : Tree) : Reading (List Tree) :=
  match node.resolve d.names with
  | .sequence _ _ items => .ok items
  | _ => malformed

/-- The two parts of an item of a list of pairs, which has to be a mapping with one entry. -/
def pair (d : Document) (node : Tree) : Reading (Tree × Tree) :=
  match node.resolve d.names with
  | .mapping _ _ [entry] => .ok entry
  | _ => malformed

/-- Where the check of a level stands: the names already met, and the collections found on the
way, the latest first. -/
structure Level where
  met : List String
  next : List Tree

/-- Meets a node: a scalar is read, a collection is left for the next level. -/
def meet (d : Document) (level : Level) (node : Tree) : Reading Level := do
  match node.anchor? with
  | some name =>
    if level.met.contains name then
      return level
  | none => pure ()
  let level := { level with met := node.anchor?.toList ++ level.met }
  let node := node.resolve d.names
  if node.tag.isCollection then
    return { level with next := node :: level.next }
  else
    let _ ← d.scalar node
    return level

/-- Meets a key, which may not be a collection. -/
def meetKey (d : Document) (level : Level) (key : Tree) : Reading Level := do
  let level ← d.meet level key
  if (key.resolve d.names).tag.isCollection then malformed
  return level

/-- Meets the nodes right below a collection. -/
def meetBelow (d : Document) (level : Level) (node : Tree) : Reading Level := do
  match node.tag with
  | .sequence => (← d.items node).foldlM d.meet level
  | .mapping | .set =>
    (← d.entries node).foldlM (fun level (key, value) => do
      d.meet (← d.meetKey level key) value) level
  | _ =>
    (← d.items node).foldlM (fun level item => do
      let (key, value) ← d.pair item
      d.meet (← d.meet level key) value) level

/-- Checks collections level by level. -/
def checkLevels (d : Document) : Nat → List String → List Tree → Reading Unit
  | 0, _, _ => malformed
  | _ + 1, _, [] => .ok ()
  | fuel + 1, met, nodes => do
    let level ← nodes.foldlM d.meetBelow ⟨met, []⟩
    checkLevels d fuel level.met level.next.reverse

/-- Checks that all nodes have values. -/
def check (d : Document) : Reading Unit := do
  let level ← d.meet ⟨[], []⟩ d.root
  d.checkLevels (d.limit + 1) level.met level.next.reverse

/-- The value of a node, with collections down to a depth; those below it are left empty, so that
a node that contains itself has a value as well. -/
def value (d : Document) : Nat → Tree → Reading Value
  | 0, node => do
    let node := node.resolve d.names
    match node.tag with
    | .sequence => return .list []
    | .mapping => return .mapping []
    | .set => return .set []
    | .pairs | .omap => return .pairs []
    | _ => return .scalar (← d.scalar node)
  | depth + 1, node => do
    let node := node.resolve d.names
    match node.tag with
    | .sequence => return .list (← (← d.items node).mapM (d.value depth))
    | .mapping =>
      let entries ← (← d.entries node).mapM fun (key, value) => do
        return (← d.scalar key, ← d.value depth value)
      return .mapping (entries.foldl (fun all (key, value) => Value.putEntry all key value) [])
    | .set =>
      let members ← (← d.entries node).mapM fun (key, _) => d.scalar key
      let add (all : List Scalar) (s : Scalar) : List Scalar :=
        if all.any fun t => t.same s then all else all ++ [s]
      return .set (members.foldl add [])
    | .pairs | .omap =>
      let pairs ← (← d.items node).mapM fun item => do
        let (key, value) ← d.pair item
        return (← d.value depth key, ← d.value depth value)
      return .pairs pairs
    | _ => return .scalar (← d.scalar node)

end Document

/-- The number of levels of collections that a value shows; configurations have two. -/
def shownDepth : Nat := 4

/-- How many collections may stand inside one another.  What a machine allows is about this. -/
def nestingLimit : Nat := 480

/-- Whether, up to the place where tokens break off, names are unique and all references are to
known names.  A name that stands right before that place is not looked at any more. -/
def namesInOrder (known : List String) : List Token → Bool
  | [] => true
  | [.anchor _, .broken] => true
  | [.anchor _, .tag _, .broken] => true
  | .anchor name :: rest => !known.contains name && namesInOrder (name :: known) rest
  | .alias name :: rest => known.contains name && namesInOrder known rest
  | _ :: rest => namesInOrder known rest

/-- The tree of tokens, if there is any.  The problem of cutting shows only where nothing before it
is out of order. -/
def Cut.tree (cut : Cut) : Reading (Option Tree) :=
  match Tree.ofTokens cut.tokens with
  | .error .brokenOff =>
    if namesInOrder [] cut.tokens then .error (cut.problem.getD .malformed) else malformed
  | result => result

/-- Reads the value of a document; an empty document has none, which counts as nothing. -/
def read (s : List Char) : Reading Value := do
  let s := Text.unifyLineEnds s
  if !s.all isAllowed then malformed
  match ← ((tokens s).within nestingLimit).tree with
  | none => return .null
  | some tree =>
    match Document.ofTree? tree with
    | none => malformed
    | some d =>
      d.check
      d.value shownDepth d.root

end TokenSplit.Yaml
