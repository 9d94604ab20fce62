import TokenSplit.Calendar
import TokenSplit.Decimal.Exact

/-!
# Values

What callers and configuration files may hand over where a number, a flag or a section is
expected.  Scalars can be keys of mappings; two scalars that are the same number count as the
same key, whatever their kinds.
-/

namespace TokenSplit

/-- A value without parts.  A text that holds a code of no character, such as half of a surrogate
pair, is kept as its codes. -/
inductive Scalar where
  | null
  | bool (b : Bool)
  | int (n : Int)
  | float (x : Float)
  | text (s : String)
  | codes (c : List Nat)
  | octets (o : List UInt8)
  | date (d : Date)
  | moment (m : Moment)

/-- Any value.  An index is no integer itself but stands for the value it holds wherever an
integer is asked of it; pairs are a list of two-part items. -/
inductive Value where
  | scalar (s : Scalar)
  | list (items : List Value)
  | pairs (items : List (Value × Value))
  | set (members : List Scalar)
  | mapping (entries : List (Scalar × Value))
  | index (target : Value)

/-- The kinds of things that messages name. -/
inductive Kind where
  | null
  | bool
  | int
  | float
  | text
  | octets
  | date
  | moment
  | list
  | set
  | mapping
  | index
  | breakdown
  | ratio
  | config
  | other (name : String)
deriving DecidableEq, Repr

/-- The word for a kind of thing in messages. -/
def Kind.name : Kind → String
  | .null => "NoneType"
  | .bool => "bool"
  | .int => "int"
  | .float => "float"
  | .text => "str"
  | .octets => "bytes"
  | .date => "datetime.date"
  | .moment => "datetime.datetime"
  | .list => "list"
  | .set => "set"
  | .mapping => "dict"
  | .index => "Index"
  | .breakdown => "TokenDistribution"
  | .ratio => "DistributionRatio"
  | .config => "DistributionConfig"
  | .other name => name

namespace Scalar

/-- The kind of a scalar. -/
def kind : Scalar → Kind
  | .null => .null
  | .bool _ => .bool
  | .int _ => .int
  | .float _ => .float
  | .text _ => .text
  | .codes _ => .text
  | .octets _ => .octets
  | .date _ => .date
  | .moment _ => .moment

/-- Whether a scalar counts as true where a condition is asked of it: all do but nothing, zero
and what is empty. -/
def isTrue : Scalar → Bool
  | .null => false
  | .bool b => b
  | .int n => n != 0
  | .float x => !(x == 0.0)
  | .text s => s != ""
  | .codes c => !c.isEmpty
  | .octets o => !o.isEmpty
  | .date _ => true
  | .moment _ => true

/-- The integer that a scalar is or, for a flag, counts as. -/
def asInt? : Scalar → Option Int
  | .int n => some n
  | .bool b => some (if b then 1 else 0)
  | _ => none

/-- The codes of a text. -/
def codes? : Scalar → Option (List Nat)
  | .text s => some (s.toList.map Char.toNat)
  | .codes c => some c
  | _ => none

/-- Whether two scalars are equal: numbers and flags by their value, all else by kind and
content. -/
def same : Scalar → Scalar → Bool
  | .null, .null => true
  | .text s, .text t => s == t
  | .codes c, .codes d => c == d
  | .octets o, .octets p => o == p
  | .date d, .date e => d == e
  | .moment m, .moment n => m.same n
  | .float x, .float y => x == y || (x.isNaN && y.isNaN)
  | .float x, b => b.asInt?.any (Decimal.equalsInt x)
  | a, .float y => a.asInt?.any (Decimal.equalsInt y)
  | a, b =>
    match a.asInt?, b.asInt? with
    | some m, some n => m == n
    | _, _ => false

end Scalar

namespace Value

/-- Nothing. -/
@[match_pattern] abbrev null : Value :=
  .scalar .null

/-- A flag. -/
@[match_pattern] abbrev bool (b : Bool) : Value :=
  .scalar (.bool b)

/-- An integer. -/
@[match_pattern] abbrev int (n : Int) : Value :=
  .scalar (.int n)

/-- A binary number. -/
@[match_pattern] abbrev float (x : Float) : Value :=
  .scalar (.float x)

/-- A text. -/
@[match_pattern] abbrev text (s : String) : Value :=
  .scalar (.text s)

/-- A token count. -/
abbrev count (n : Nat) : Value :=
  .int n

/-- The kind of a value. -/
def kind : Value → Kind
  | .scalar s => s.kind
  | .list _ => .list
  | .pairs _ => .list
  | .set _ => .set
  | .mapping _ => .mapping
  | .index _ => .index

/-- Whether a value counts as true where a condition is asked of it. -/
def isTrue : Value → Bool
  | .scalar s => s.isTrue
  | .list items => !items.isEmpty
  | .pairs items => !items.isEmpty
  | .set members => !members.isEmpty
  | .mapping entries => !entries.isEmpty
  | .index _ => true

/-- The value of an entry of a mapping. -/
def entry? (entries : List (Scalar × Value)) (key : String) : Option Value :=
  (entries.find? fun e => e.1.same (.text key)).map (·.2)

/-- Writes an entry of a mapping: a new key goes to the end, a present key keeps its place and
its first spelling. -/
def putEntry (entries : List (Scalar × Value)) (key : Scalar) (value : Value) :
    List (Scalar × Value) :=
  if entries.any fun e => e.1.same key then
    entries.map fun e => if e.1.same key then (e.1, value) else e
  else
    entries ++ [(key, value)]

mutual

/-- Whether two values are equal: lists item by item, mappings and sets without regard to order. -/
def same : Value → Value → Bool
  | .scalar a, .scalar b => a.same b
  | .list xs, .list ys => sameItems xs ys
  | .pairs xs, .pairs ys => samePairs xs ys
  | .set xs, .set ys =>
    xs.length == ys.length && xs.all fun x => ys.any fun y => x.same y
  | .mapping xs, .mapping ys => xs.length == ys.length && sameEntries xs ys
  | .index a, .index b => same a b
  | _, _ => false

/-- Whether two lists are equal item by item. -/
def sameItems : List Value → List Value → Bool
  | [], [] => true
  | x :: xs, y :: ys => same x y && sameItems xs ys
  | _, _ => false

/-- Whether two lists of pairs are equal item by item. -/
def samePairs : List (Value × Value) → List (Value × Value) → Bool
  | [], [] => true
  | (a, b) :: xs, (c, d) :: ys => same a c && same b d && samePairs xs ys
  | _, _ => false

/-- Whether every entry of one mapping is in another. -/
def sameEntries : List (Scalar × Value) → List (Scalar × Value) → Bool
  | [], _ => true
  | (key, value) :: rest, others =>
    (match others.find? fun e => e.1.same key with
      | some (_, other) => same value other
      | none => false)
    && sameEntries rest others

end

end Value

end TokenSplit
