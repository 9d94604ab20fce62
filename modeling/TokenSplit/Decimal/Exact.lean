/-!
# Exact values of binary numbers

A finite binary number is an integer times a power of two.  From that come its comparison with
integers and its integer part, both without rounding.
-/

namespace TokenSplit.Decimal

/-- The signed significand and the power of two of a finite number. -/
def parts? (x : Float) : Option (Int × Int) :=
  let bits : Nat := x.toBits.toNat
  let exponent : Nat := (bits / Nat.pow 2 52) % Nat.pow 2 11
  let fraction : Nat := bits % Nat.pow 2 52
  let sign : Int := if bits / Nat.pow 2 63 = 1 then -1 else 1
  if x.isNaN ∨ exponent = 2047 then none
  else if exponent = 0 then some (sign * (fraction : Int), -1074)
  else some (sign * ((Nat.pow 2 52 + fraction : Nat) : Int), (exponent : Int) - 1075)

/-- Whether a binary number is a given integer. -/
def equalsInt (x : Float) (n : Int) : Bool :=
  match parts? x with
  | none => false
  | some (m, q) => m * Int.pow 2 q.toNat == n * Int.pow 2 (-q).toNat

/-- The integer part of a finite number, toward zero. -/
def integerPart? (x : Float) : Option Int :=
  (parts? x).map fun (m, q) => (m * Int.pow 2 q.toNat).tdiv (Int.pow 2 (-q).toNat)

/-- The binary number nearest to an integer, unless it lies beyond the largest one. -/
def ofInt? (n : Int) : Option Float :=
  let x := Float.ofInt n
  if x.isFinite then some x else none

end TokenSplit.Decimal
