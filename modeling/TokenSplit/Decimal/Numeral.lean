/-!
# Numerals

Integers in decimal digits.  No numeral of more than 4300 digits is written; digits may be
grouped by threes from the right.
-/

namespace TokenSplit.Decimal

/-- The most digits that a numeral may have. -/
def digitLimit : Nat := 4300

/-- The decimal digits of a number. -/
def digits (n : Nat) : List Char :=
  Nat.toDigits 10 n

/-- Puts a minus sign in front where an integer is negative. -/
def signed (n : Int) (magnitude : List Char) : List Char :=
  if n < 0 then '-' :: magnitude else magnitude

/-- Whether an integer has a numeral within the limit. -/
def Writable (n : Int) : Prop :=
  (digits n.natAbs).length ≤ digitLimit

instance (n : Int) : Decidable (Writable n) :=
  inferInstanceAs (Decidable (_ ≤ _))

/-- The numeral of an integer, unless it is too long. -/
def numeral? (n : Int) : Option (List Char) :=
  if Writable n then some (signed n (digits n.natAbs)) else none

/-- Separates groups of three by commas, counted from the first character. -/
def separate : List Char → List Char
  | a :: b :: c :: d :: rest => a :: b :: c :: ',' :: separate (d :: rest)
  | short => short

/-- Groups digits by threes from the right. -/
def group (ds : List Char) : List Char :=
  (separate ds.reverse).reverse

/-- The numeral of an integer with its digits in groups, of any length. -/
def grouped (n : Int) : List Char :=
  signed n (group (digits n.natAbs))

/-- The numeral of an integer with its digits in groups, unless it is too long. -/
def grouped? (n : Int) : Option (List Char) :=
  if Writable n then some (grouped n) else none

end TokenSplit.Decimal
