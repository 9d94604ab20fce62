import TokenSplit.Fault
import TokenSplit.Text.Blank
import TokenSplit.Text.Digit

/-!
# Reading numbers

Integers in a base and binary numbers, read from text.  Both may have blanks around them and a
sign in front, and both take the digits of all scripts.
-/

namespace TokenSplit.Decimal

/-- Whether a character may surround a number: the blanks without the separators of information. -/
def isMargin (c : Char) : Bool :=
  Text.isBlank c && !(0x1C ≤ c.toNat && c.toNat ≤ 0x1F)

/-- A number without what surrounds it. -/
def trimMargin (s : List Char) : List Char :=
  ((s.dropWhile isMargin).reverse.dropWhile isMargin).reverse

/-- A number without what surrounds it, in plain digits. -/
def bare (s : List Char) : List Char :=
  (trimMargin s).map Text.plainDigit

/-- Whether a number has a minus sign in front, and what follows its sign. -/
def takeSign : List Char → Bool × List Char
  | '-' :: rest => (true, rest)
  | '+' :: rest => (false, rest)
  | s => (false, s)

/-- The value of a digit, letters counting from ten on. -/
def digit? (base : Nat) (c : Char) : Option Nat :=
  let n := c.toNat
  let value :=
    if 48 ≤ n ∧ n ≤ 57 then n - 48
    else if 97 ≤ n ∧ n ≤ 122 then n - 87
    else if 65 ≤ n ∧ n ≤ 90 then n - 55
    else base
  if value < base then some value else none

/-- The number that digits write. -/
def natural (base : Nat) (digits : List Char) : Nat :=
  digits.foldl (fun n c => n * base + (digit? base c).getD 0) 0

/-- Drops the mark of a base, such as `0x` for base 16. -/
def dropMark (base : Nat) : List Char → List Char
  | '0' :: mark :: rest =>
    let known := match base with
      | 2 => mark == 'b' || mark == 'B'
      | 8 => mark == 'o' || mark == 'O'
      | 16 => mark == 'x' || mark == 'X'
      | _ => false
    if known then rest else '0' :: mark :: rest
  | s => s

/-- The integer that a text writes in a base. -/
def integer (base : Nat) (s : List Char) : Except Fault Int :=
  let (negative, body) := takeSign (bare s)
  let body := dropMark base body
  let digits := body.takeWhile fun c => (digit? base c).isSome
  if base = 10 ∧ digitLimit < digits.length then
    .error (.numeralRefused digits.length)
  else if digits.isEmpty ∨ digits.length < body.length then
    .error (.notNumeral base (String.ofList s))
  else
    let magnitude : Int := natural base digits
    .ok (if negative then -magnitude else magnitude)

/-- The binary number nearest to `digits * 10 ^ exponent`; far outside the range of binary
numbers no digit matters. -/
def nearest (digits : List Char) (exponent : Int) : Float :=
  let digits := digits.dropWhile (· == '0')
  let leading := exponent + digits.length
  if digits.isEmpty ∨ leading < -400 then 0.0
  else if 400 < leading then Float.ofScientific 1 false 400
  else Float.ofScientific (natural 10 digits) (exponent < 0) exponent.natAbs

/-- The power of ten after a decimal, if there is nothing else. -/
def exponent? : List Char → Option Int
  | [] => some 0
  | mark :: rest =>
    let (negative, digits) := takeSign rest
    if (mark = 'e' ∨ mark = 'E') ∧ !digits.isEmpty ∧ digits.all Char.isDigit then
      let power : Int := natural 10 digits
      some (if negative then -power else power)
    else
      none

/-- The binary number that a text without a sign writes. -/
def magnitude? (s : List Char) : Option Float :=
  let word := String.ofList (s.map Char.toLower)
  if word = "inf" ∨ word = "infinity" then some (1.0 / 0.0)
  else if word = "nan" then some (0.0 / 0.0)
  else
    let whole := s.takeWhile Char.isDigit
    let rest := s.dropWhile Char.isDigit
    let (fraction, rest) := match rest with
      | '.' :: rest => (rest.takeWhile Char.isDigit, rest.dropWhile Char.isDigit)
      | rest => ([], rest)
    if whole.isEmpty ∧ fraction.isEmpty then none
    else (exponent? rest).map fun power => nearest (whole ++ fraction) (power - fraction.length)

/-- The binary number that a text writes. -/
def float (s : List Char) : Except Fault Float :=
  let (negative, body) := takeSign (bare s)
  match magnitude? body with
  | some x => .ok (if negative then -x else x)
  | none => .error (.notNumber (String.ofList s))

end TokenSplit.Decimal
