import TokenSplit.Fault

/-!
# Counting with values

Sums, signs and conversion to token counts.  A flag counts as one or zero in sums and
comparisons, but is refused where a token count is asked for; an index is the other way round.
-/

namespace TokenSplit.Value

/-- The sum of a binary number and an integer, which has to be within the binary numbers. -/
def addInteger (x : Float) (n : Int) : Except Fault Value :=
  match Decimal.ofInt? n with
  | some y => .ok (.float (x + y))
  | none => .error .integerTooLarge

/-- The cause for which something is no continuation of a value, and the value no first part of a
sum. -/
def continuationFault (a b : Value) : Fault :=
  match a.kind with
  | .text => .notConcatenable .text b.kind
  | .list => .notConcatenable .list b.kind
  | .octets => .octetsNotConcatenable b.kind
  | kind => .notAddable kind b.kind

/-- The sum of two scalars: numbers are added, texts and octets are put together. -/
def addScalars (a b : Scalar) : Except Fault Value :=
  match a, b, a.asInt?, b.asInt? with
  | _, _, some m, some n => .ok (.int (m + n))
  | .float x, .float y, _, _ => .ok (.float (x + y))
  | .float x, _, _, some n => addInteger x n
  | _, .float y, some m, _ => addInteger y m
  | .text s, .text t, _, _ => .ok (.text (s ++ t))
  | .octets o, .octets p, _, _ => .ok (.scalar (.octets (o ++ p)))
  | _, _, _, _ =>
    match a.codes?, b.codes? with
    | some c, some d => .ok (.scalar (.codes (c ++ d)))
    | _, _ => .error (continuationFault (.scalar a) (.scalar b))

/-- The sum of two values: numbers are added; texts, octets and lists are put together. -/
def add : Value → Value → Except Fault Value
  | .scalar a, .scalar b => addScalars a b
  | .list xs, .list ys => .ok (.list (xs ++ ys))
  | a, b => .error (continuationFault a b)

/-- Whether a number is above zero. -/
def isPositive : Value → Except Fault Bool
  | .float x => .ok (0.0 < x)
  | .scalar s =>
    match s.asInt? with
    | some n => .ok (0 < n)
    | none => .error (.notOrdered .greater s.kind .int)
  | v => .error (.notOrdered .greater v.kind .int)

/-- Whether a number is below zero. -/
def isNegative : Value → Except Fault Bool
  | .float x => .ok (x < 0.0)
  | .scalar s =>
    match s.asInt? with
    | some n => .ok (n < 0)
    | none => .error (.notOrdered .less s.kind .int)
  | v => .error (.notOrdered .less v.kind .int)

/-- The integer that a value stands for where a token count is asked for. -/
def asIndex : Value → Except Fault Int
  | .int n => .ok n
  | .bool _ => .error .totalIsFlag
  | .index (.int n) => .ok n
  | .index (.bool b) => .ok (if b then 1 else 0)
  | .index held => .error (.indexNotInteger held.kind)
  | v => .error (.notIntegerLike v.kind)

/-- The token count that a value stands for. -/
def tokens (v : Value) : Except Fault Nat := do
  let n ← v.asIndex
  if n < 0 then throw .totalNegative
  return n.toNat

/-- Whether nothing is given. -/
def isNull : Value → Bool
  | .null => true
  | _ => false

end TokenSplit.Value
