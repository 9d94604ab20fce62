import TokenSplit.Decimal.Read

/-!
# Counts on a command line

Integers as they are typed: with blanks around them, a sign, digits with single underscores
between them, and a fraction of zeros, all but the digits optional.
-/

namespace TokenSplit.CommandLine

/-- Why a word is no integer. -/
inductive CountFault where
  | tooLong
  | notInteger
deriving DecidableEq, Repr

/-- The wording of the reason. -/
def CountFault.message : CountFault → String
  | .tooLong => "Unable to parse input string as an integer, exceeded maximum size"
  | .notInteger => "Input should be a valid integer, unable to parse string as an integer"

/-- The most octets that a typed integer may have. -/
def countLimit : Nat := 4300

/-- Drops a fraction of zeros at the end. -/
def dropZeroFraction (s : List Char) : List Char :=
  if s.getLast? = some '0' then
    match s.reverse.dropWhile (· == '0') with
    | '.' :: whole => whole.reverse
    | _ => s
  else
    s

/-- Goes on from a number with the digits after it, which may have single underscores between
them. -/
def readCount (number : Nat) : List Char → Option Nat
  | [] => none
  | [d] => if d.isDigit then some (number * 10 + (d.toNat - 48)) else none
  | d :: '_' :: rest =>
    if d.isDigit then readCount (number * 10 + (d.toNat - 48)) rest else none
  | d :: rest => if d.isDigit then readCount (number * 10 + (d.toNat - 48)) rest else none

/-- The integer that a word writes. -/
def count (word : String) : Except CountFault Int :=
  let s := Decimal.trimMargin word.toList
  if countLimit < (String.ofList s).utf8ByteSize then
    .error .tooLong
  else
    let (negative, digits) := Decimal.takeSign s
    match readCount 0 (dropZeroFraction digits) with
    | some n => .ok (if negative then -(n : Int) else n)
    | none => .error .notInteger

end TokenSplit.CommandLine
