import TokenSplit.Allocation
import TokenSplit.Config.Load

/-!
# Sessions

Runs of steps that make ratios, breakdowns, configurations and usages, give them names and use
them.  Records cannot be changed, only replaced.  A usage can; it is held by its place, so that a
configuration that was given one as its ratio goes on holding the same usage.  A step that fails
gives no name to anything, and the session goes on.
-/

namespace TokenSplit

/-- What a name can stand for.  A configuration may hold anything as its ratio, since nothing is
checked when it is made; a usage is known by its place among the usages of the session. -/
inductive Item where
  | ratio (r : Ratio)
  | breakdown (b : Breakdown)
  | config (basis : Item) (omitEmpty : Value)
  | usage (place : Nat)
  | value (v : Value)

/-- A configuration that was loaded, whose ratio is one. -/
def Config.item (c : Config) : Item :=
  .config (.ratio c.ratio) c.omitEmpty

namespace Item

/-- The kind of an item. -/
def kind : Item → Kind
  | .ratio _ => .ratio
  | .breakdown _ => .breakdown
  | .config _ _ => .config
  | .usage _ => .mapping
  | .value v => v.kind

/-- The ratio that an item is, or the kind of what is none. -/
def toRatio : Item → Except Kind Ratio
  | .ratio r => .ok r
  | item => .error item.kind

/-- Whether an item is a record. -/
def isRecord : Item → Bool
  | .ratio _ => true
  | .breakdown _ => true
  | .config _ _ => true
  | _ => false

/-- The field of an item, computed ones included. -/
def get (item : Item) (field : String) : Except Fault Item :=
  match item, field with
  | .ratio r, "total_parts" => .ok (.value (.count r.totalParts))
  | .ratio r, field =>
    match Ratio.Field.all.find? fun f => f.name == field with
    | some f => .ok (.value (.count (r.get f)))
    | none => .error (.noAttribute .ratio field)
  | .breakdown b, "input_tokens" => .ok (.value b.input)
  | .breakdown b, "cache_creation_input_tokens" => .ok (.value b.creation)
  | .breakdown b, "cache_read_input_tokens" => .ok (.value b.read)
  | .breakdown b, "total_input_tokens" => .value <$> b.total
  | .breakdown b, "has_cache_tokens" => (fun cached => .value (.bool cached)) <$> b.hasCache
  | .config basis _, "ratio" => .ok basis
  | .config _ omitEmpty, "omit_empty_cache_fields" => .ok (.value omitEmpty)
  | item, field => .error (.noAttribute item.kind field)

/-- The ratio with the fields of another where none are given. -/
def replaceRatio (r : Ratio) (entries : List (String × Value)) : Except Fault Ratio :=
  Ratio.ofArguments (.named (entries ++ Ratio.Field.all.map fun f => (f.name, .count (r.get f))))

/-- The breakdown with the fields of another where none are given. -/
def replaceBreakdown (b : Breakdown) (entries : List (String × Value)) :
    Except Fault Breakdown :=
  Breakdown.ofArguments (.named (entries ++ [("input_tokens", b.input),
    ("cache_creation_input_tokens", b.creation), ("cache_read_input_tokens", b.read)]))

/-- The fields of a configuration, all with a default. -/
def configSignature : Signature where
  record := .config
  fields := ["ratio", "omit_empty_cache_fields"]
  required := 0

/-- The configuration with some fields changed.  Its ratio may become anything; one that is given as
an item counts before one that is given as a value. -/
def replaceConfig (basis : Item) (omitEmpty : Value) (held : Option Item)
    (entries : List (String × Value)) : Except Fault Item := do
  (Arguments.named entries).check configSignature
  let given := held <|> (entries.lookup "ratio").map .value
  return .config (given.getD basis) ((entries.lookup "omit_empty_cache_fields").getD omitEmpty)

/-- A new record with some fields changed, checked like any other.  Where a ratio is given as an
item, the record has to be a configuration. -/
def replace (item : Item) (held : Option Item) (entries : List (String × Value)) :
    Except Fault Item :=
  match item with
  | .ratio r => do
    if held.isSome then throw (.unexpectedArgument .ratio "ratio")
    return .ratio (← replaceRatio r entries)
  | .breakdown b => do
    if held.isSome then throw (.unexpectedArgument .breakdown "ratio")
    return .breakdown (← replaceBreakdown b entries)
  | .config basis omitEmpty => replaceConfig basis omitEmpty held entries
  | _ => .error .notReplaceable

/-- Whether two breakdowns are equal field by field. -/
def sameBreakdown (a b : Breakdown) : Bool :=
  a.input.same b.input && a.creation.same b.creation && a.read.same b.read

/-- The usage at a place. -/
def usageAt (usages : List Usage) (place : Nat) : Usage :=
  usages.getD place ⟨[]⟩

/-- Whether two items are equal; records of different kinds never are. -/
def same (usages : List Usage) : Item → Item → Bool
  | .ratio r, .ratio s => r == s
  | .breakdown a, .breakdown b => sameBreakdown a b
  | .config r a, .config s b => same usages r s && a.same b
  | .usage p, .usage q => (usageAt usages p).toValue.same (usageAt usages q).toValue
  | .usage p, .value v => (usageAt usages p).toValue.same v
  | .value v, .usage p => v.same (usageAt usages p).toValue
  | .value v, .value w => v.same w
  | _, _ => false

/-- Checks that a value can be counted by value. -/
def checkCountable (v : Value) : Except Fault Unit :=
  match v with
  | .scalar _ => .ok ()
  | .index _ => .ok ()
  | v => .error (.unhashable v.kind)

/-- Checks that an item can be counted by value. -/
def countable : Item → Except Fault Unit
  | .ratio _ => .ok ()
  | .breakdown b => do
    checkCountable b.input
    checkCountable b.creation
    checkCountable b.read
  | .config basis omitEmpty => do
    countable basis
    checkCountable omitEmpty
  | .usage _ => .error (.unhashable .mapping)
  | .value v => checkCountable v

/-- The number of different items. -/
def distinct (usages : List Usage) (items : List Item) : Except Fault Nat := do
  items.forM countable
  let add (found : List Item) (item : Item) : List Item :=
    if found.any (item.same usages) then found else item :: found
  return (items.foldl add []).length

/-- A record as text: its kind and its fields with their values. -/
def recordText (kind : Kind) (fields : List (String × Option String)) : Option String := do
  let texts ← fields.mapM fun (name, text) => text.map (name ++ "=" ++ ·)
  return kind.name ++ "(" ++ commaSeparated texts ++ ")"

/-- The text of a ratio. -/
def ratioText (r : Ratio) : Option String :=
  recordText .ratio
    (Ratio.Field.all.map fun f => (f.name, (Value.count (r.get f)).render?))

/-- The text of an item, unless one of its numerals is too long. -/
def text? (usages : List Usage) : Item → Option String
  | .ratio r => ratioText r
  | .breakdown b =>
    recordText .breakdown [("input_tokens", b.input.render?),
      ("cache_creation_input_tokens", b.creation.render?),
      ("cache_read_input_tokens", b.read.render?)]
  | .config basis omitEmpty =>
    recordText .config
      [("ratio", text? usages basis), ("omit_empty_cache_fields", omitEmpty.render?)]
  | .usage p => (usageAt usages p).toValue.render?
  | .value v => v.render?

end Item

/-- A step of a session; operands are given by name. -/
inductive Step where
  | ratio (args : Arguments)
  | breakdown (args : Arguments)
  | standardRatio
  | standardConfig
  | config (ratio : Option String) (omitEmpty : Value)
  | write (path : String) (node : Node)
  | remove (path : String)
  | load (path : String)
  | allocate (total : Value) (ratio : Option String)
  | usage (breakdown : String) (output omitEmpty : Value)
  | report (config : String) (total output : Value)
  | put (usage key : String) (value : Value)
  | get (item field : String)
  | set (item field : String)
  | erase (item field : String)
  | replace (item : String) (ratio : Option String) (entries : List (String × Value))
  | copy (item : String)
  | same (left right : String)
  | less (left right : String)
  | distinct (items : List String)
  | text (item : String)
  | item (item : String)

/-- The state of a session: the host, the usages that were made, in order, and what names stand
for. -/
structure Session where
  host : Host
  usages : List Usage
  bound : List (String × Item)

namespace Session

/-- What a name stands for. -/
def find (s : Session) (name : String) : Except Fault Item :=
  match s.bound.lookup name with
  | some item => .ok item
  | none => .error (.unbound name)

/-- What a name stands for, if one is given. -/
def find? (s : Session) : Option String → Except Fault (Option Item)
  | none => .ok none
  | some name => some <$> s.find name

/-- What a name of a ratio stands for; where no name is given, that is the standard ratio. -/
def findRatio (s : Session) (name : Option String) : Except Fault Item :=
  (·.getD (.ratio Ratio.standard)) <$> s.find? name

/-- Lets a name stand for something. -/
def bind (s : Session) (name : String) (item : Item) : Session :=
  { s with bound := (name, item) :: s.bound.filter fun b => b.1 != name }

/-- What a step makes: an item, a new usage, a usage with an entry written, or other files. -/
inductive Made where
  | item (item : Item)
  | usage (u : Usage)
  | edited (place : Nat) (u : Usage)
  | files (disk : Disk)

/-- What a step makes of a session. -/
def eval (s : Session) : Step → Logged Made
  | .ratio args => do return .item (.ratio (← Ratio.ofArguments args))
  | .breakdown args => do return .item (.breakdown (← Breakdown.ofArguments args))
  | .standardRatio => return .item (.ratio Ratio.standard)
  | .standardConfig => return .item Config.standard.item
  | .config ratio omitEmpty => do return .item (.config (← s.findRatio ratio) omitEmpty)
  | .write path node => return .files (s.host.disk.write path node)
  | .remove path => return .files (s.host.disk.remove path)
  | .load path => do return .item (← Config.load s.host path).item
  | .allocate total ratio => do
    let basis ← s.findRatio ratio
    return .item (.breakdown (← allocateBy basis.toRatio total).breakdown)
  | .usage name output omitEmpty => do
    match ← s.find name with
    | .breakdown b => return .usage (← b.usage output omitEmpty)
    | item =>
      checkOutput output
      throw (Fault.noAttribute item.kind "input_tokens")
  | .report name total output => do
    match ← s.find name with
    | .config basis omitEmpty => return .usage (← reportBy basis.toRatio total output omitEmpty)
    | item => throw (Fault.noAttribute item.kind "ratio")
  | .put name key value => do
    match ← s.find name with
    | .usage place => return .edited place ((Item.usageAt s.usages place).put key value)
    | item => throw (Fault.noEntries item.kind)
  | .get name field => do return .item (← (← s.find name).get field)
  | .set name field => do
    let item ← s.find name
    throw (if item.isRecord then Fault.frozenAssignment field else .noAttribute item.kind field)
  | .erase name field => do
    let item ← s.find name
    throw (if item.isRecord then Fault.frozenDeletion field else .noAttribute item.kind field)
  | .replace name ratio entries => do
    let item ← s.find name
    return .item (← item.replace (← s.find? ratio) entries)
  | .copy name => do
    match ← s.find name with
    | .usage place => return .usage (Item.usageAt s.usages place)
    | item => return .item item
  | .same left right => do
    let a ← s.find left
    let b ← s.find right
    return .item (.value (.bool (a.same s.usages b)))
  | .less left right => do
    let a ← s.find left
    let b ← s.find right
    throw (Fault.notOrdered .less a.kind b.kind)
  | .distinct names => do
    let items ← names.mapM fun name => (s.find name : Logged Item)
    return .item (.value (.count (← Item.distinct s.usages items)))
  | .text name => do
    match (← s.find name).text? s.usages with
    | some text => return .item (.value (.text text))
    | none => throw Fault.numeralTooLong
  | .item name => do return .item (← s.find name)

/-- The session after a step that made something, and the item that it made.  A new usage gets the
next place; a usage with an entry written keeps its own. -/
def settle (s : Session) : Made → Session × Item
  | .item item => (s, item)
  | .usage u => ({ s with usages := s.usages ++ [u] }, .usage s.usages.length)
  | .edited place u => ({ s with usages := s.usages.set place u }, .usage place)
  | .files disk => ({ s with host := { s.host with disk := disk } }, .value .null)

/-- Takes a step, whose item may be given a name. -/
def step (s : Session) (step : Step) (name : Option String) : Session × Logged Item :=
  let made := s.eval step
  match made.result with
  | .ok m =>
    let (after, item) := s.settle m
    ((match name with
      | some name => after.bind name item
      | none => after), ⟨.ok item, made.log⟩)
  | .error fault => (s, ⟨.error fault, made.log⟩)

/-- Takes steps one after another; what comes of each is to be read with the session after it. -/
def run (s : Session) : List (Step × Option String) → List (Session × Logged Item)
  | [] => []
  | (step, name) :: rest => s.step step name :: run (s.step step name).1 rest

end Session

end TokenSplit
