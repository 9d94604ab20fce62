/-!
# Shortest decimals

The decimal with the fewest digits that lies among the reals rounding to a given binary number.
All comparisons are exact and on naturals: a window holds the number and the two ends of its
rounding interval over one denominator, and grids of ever finer powers of ten are tried until one
of the number's two neighbours on the grid falls inside.
-/

namespace TokenSplit.Decimal

/-- `digits * 10 ^ exponent`. -/
structure Scaled where
  digits : Nat
  exponent : Int
deriving DecidableEq, Repr

/-- A positive binary number between the ends of the interval of reals that round to it; the
ends belong to the interval if it is closed. -/
structure Window where
  low : Nat
  mid : Nat
  high : Nat
  denominator : Nat
  closed : Bool
deriving DecidableEq, Repr

namespace Window

/-- The window of a finite binary number of 64 bits, sign aside.  Below a power of two the
neighbour is half as far away as above. -/
def ofBits (bits : UInt64) : Window :=
  let exponent := (bits.toNat / Nat.pow 2 52) % Nat.pow 2 11
  let fraction := bits.toNat % Nat.pow 2 52
  let significand := if exponent = 0 then fraction else Nat.pow 2 52 + fraction
  let power := if exponent = 0 then 1 else exponent
  let up := Nat.pow 2 (power - 1075)
  let below := if fraction = 0 ∧ 1 < exponent then 1 else 2
  { low := (4 * significand - below) * up
    mid := 4 * significand * up
    high := (4 * significand + 2) * up
    denominator := 4 * Nat.pow 2 (1075 - power)
    closed := significand % 2 == 0 }

/-- Whether a decimal lies in the window. -/
def contains (w : Window) (d : Scaled) : Bool :=
  let point := d.digits * Nat.pow 10 d.exponent.toNat * w.denominator
  let scale := Nat.pow 10 (-d.exponent).toNat
  if w.closed then
    w.low * scale ≤ point && point ≤ w.high * scale
  else
    w.low * scale < point && point < w.high * scale

/-- The neighbour of the number on the grid of multiples of `10 ^ exponent` that lies in the
window; of two, the nearer, and at equal distance the even one. -/
def onGrid? (w : Window) (exponent : Int) : Option Scaled :=
  let unit := Nat.pow 10 exponent.toNat * w.denominator
  let scaled := w.mid * Nat.pow 10 (-exponent).toNat
  let lower : Scaled := ⟨scaled / unit, exponent⟩
  let upper : Scaled := ⟨scaled / unit + 1, exponent⟩
  match w.contains lower, w.contains upper with
  | true, true =>
    match compare (2 * scaled) ((2 * lower.digits + 1) * unit) with
    | .lt => some lower
    | .gt => some upper
    | .eq => if lower.digits % 2 = 0 then some lower else some upper
  | true, false => some lower
  | false, true => some upper
  | false, false => none

/-- The least power of ten above the number. -/
def magnitude (w : Window) : Int :=
  if w.denominator ≤ w.mid then
    ((Nat.toDigits 10 (w.mid / w.denominator)).length : Nat)
  else
    let zeros := (Nat.toDigits 10 (w.denominator / w.mid)).length - 1
    if w.mid * Nat.pow 10 zeros < w.denominator then -(zeros : Int) else 1 - (zeros : Int)

end Window

/-- Moves factors of ten from the digits to the exponent, at most `fuel` of them. -/
def Scaled.strip : Nat → Scaled → Scaled
  | 0, d => d
  | fuel + 1, d =>
    if d.digits % 10 = 0 ∧ d.digits ≠ 0 then strip fuel ⟨d.digits / 10, d.exponent + 1⟩ else d

/-- The shortest decimal in a window.  Seventeen digits always suffice; the exact grid of the
seventeenth stands in for a search that would find nothing. -/
def Window.shortest (w : Window) : Scaled :=
  let top := w.magnitude
  let found := (List.range 17).findSome? fun (n : Nat) => w.onGrid? (top - 1 - (n : Int))
  let last : Int := top - 17
  let fallback : Scaled :=
    ⟨w.mid * Nat.pow 10 (-last).toNat / (Nat.pow 10 last.toNat * w.denominator), last⟩
  (found.getD fallback).strip 20

end TokenSplit.Decimal
