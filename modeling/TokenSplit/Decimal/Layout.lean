import TokenSplit.Decimal.Shortest

/-!
# Layout of binary numbers

How the digits of a shortest decimal are laid out.  The decisions are the fields of one record,
so that an output format is a value of it.
-/

namespace TokenSplit.Decimal

/-- The decisions of a number format: the exponents of the leading digit that are written
positionally (from `plainFrom` up to and without `plainBelow`), the least number of exponent
digits, and the texts of what is no number. -/
structure Layout where
  plainFrom : Int
  plainBelow : Int
  exponentWidth : Nat
  notANumber : String
  infinity : String

namespace Layout

/-- Positional from 0.0001 up to below 10 ^ 16 and always with a point; otherwise with a signed
exponent of two digits or more. -/
def standard : Layout where
  plainFrom := -4
  plainBelow := 16
  exponentWidth := 2
  notANumber := "nan"
  infinity := "inf"

/-- Lays out a positive decimal. -/
def place (f : Layout) (d : Scaled) : String :=
  let digits := Nat.toDigits 10 d.digits
  let point : Int := digits.length + d.exponent
  let leading := point - 1
  if f.plainFrom ≤ leading ∧ leading < f.plainBelow then
    if point ≤ 0 then
      String.ofList ('0' :: '.' :: List.replicate (-point).toNat '0' ++ digits)
    else if digits.length ≤ point.toNat then
      String.ofList (digits ++ List.replicate (point.toNat - digits.length) '0' ++ ['.', '0'])
    else
      String.ofList (digits.take point.toNat ++ '.' :: digits.drop point.toNat)
  else
    let exponent := Nat.toDigits 10 leading.natAbs
    let padding := List.replicate (f.exponentWidth - exponent.length) '0'
    let sign := if leading < 0 then '-' else '+'
    let mantissa :=
      match digits with
      | [] => []
      | [d] => [d]
      | d :: rest => d :: '.' :: rest
    String.ofList (mantissa ++ 'e' :: sign :: padding ++ exponent)

/-- The text of a binary number. -/
def render (f : Layout) (x : Float) : String :=
  if x.isNaN then
    f.notANumber
  else
    let bits := x.toBits
    let sign := if bits.toNat / Nat.pow 2 63 = 1 then "-" else ""
    let magnitude : UInt64 := bits % 0x8000000000000000
    if magnitude = 0x7FF0000000000000 then
      sign ++ f.infinity
    else if magnitude = 0 then
      sign ++ "0.0"
    else
      sign ++ f.place (Window.ofBits magnitude).shortest

end Layout

end TokenSplit.Decimal
