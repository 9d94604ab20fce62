/-!
# Forms of plain texts

The forms by which a text without a tag is recognised as a flag, a number, a moment or nothing.
-/

namespace TokenSplit.Yaml.Form

/-- The parts of a text between the occurrences of a character. -/
def parts (separator : Char) : List Char → List (List Char)
  | [] => [[]]
  | c :: rest =>
    if c = separator then [] :: parts separator rest
    else
      match parts separator rest with
      | [] => [[c]]
      | part :: others => (c :: part) :: others

/-- A text without its sign, if it has one. -/
def unsigned : List Char → List Char
  | '-' :: rest => rest
  | '+' :: rest => rest
  | s => s

/-- Whether a text is one of some words. -/
def isWord (words : List String) (s : List Char) : Bool :=
  words.any fun w => w.toList == s

/-- Whether a text is not empty and consists of the characters of a class. -/
def isRun (p : Char → Bool) (s : List Char) : Bool :=
  !s.isEmpty && s.all p

/-- Whether a character is one of the digits up to a given one. -/
def isDigitTo (last : Char) (c : Char) : Bool :=
  '0' ≤ c && c ≤ last

/-- Whether a character is a hexadecimal digit. -/
def isHexDigit (c : Char) : Bool :=
  c.isDigit || ('a' ≤ c && c ≤ 'f') || ('A' ≤ c && c ≤ 'F')

/-- Whether a character belongs to a class or is an underscore, which may separate digits. -/
def orGap (p : Char → Bool) (c : Char) : Bool :=
  p c || c == '_'

/-- Whether a text is a digit of a class followed by digits and underscores. -/
def isSpaced (first : Char → Bool) : List Char → Bool
  | [] => false
  | c :: rest => first c && rest.all (orGap Char.isDigit)

/-- The words for nothing. -/
def isNull (s : List Char) : Bool :=
  isWord ["", "~", "null", "Null", "NULL"] s

/-- The words for flags. -/
def isBool (s : List Char) : Bool :=
  isWord ["yes", "Yes", "YES", "no", "No", "NO", "true", "True", "TRUE", "false", "False",
    "FALSE", "on", "On", "ON", "off", "Off", "OFF"] s

/-- A part of a number in base sixty after the first. -/
def isSixtieth : List Char → Bool
  | [c] => c.isDigit
  | [c, d] => isDigitTo '5' c && d.isDigit
  | _ => false

/-- Integers: in base 2, 8, 10 or 16, or in base 60 with colons. -/
def isInt (s : List Char) : Bool :=
  match unsigned s with
  | ['0'] => true
  | '0' :: 'b' :: rest => isRun (orGap (isDigitTo '1')) rest
  | '0' :: 'x' :: rest => isRun (orGap isHexDigit) rest
  | '0' :: rest => isRun (orGap (isDigitTo '7')) rest
  | body =>
    match parts ':' body with
    | [] => false
    | first :: others => isSpaced (fun c => c.isDigit && c != '0') first && others.all isSixtieth

/-- The power of ten after a decimal, which needs its sign. -/
def isExponent : List Char → Bool
  | [] => true
  | mark :: sign :: rest =>
    (mark == 'e' || mark == 'E') && (sign == '-' || sign == '+') && isRun Char.isDigit rest
  | _ => false

/-- What may follow the point of a decimal. -/
def isFraction (s : List Char) : Bool :=
  isExponent (s.dropWhile (orGap Char.isDigit))

/-- Numbers with a point: decimals, infinities, what is no number, and numbers in base 60. -/
def isFloat (s : List Char) : Bool :=
  let body := unsigned s
  let whole := body.takeWhile (· != '.')
  let afterPoint := (body.dropWhile (· != '.')).tail
  if whole.length = body.length then false
  else if whole.isEmpty then
    isWord ["inf", "Inf", "INF"] afterPoint ||
      (body.length == s.length &&
        (isWord ["nan", "NaN", "NAN"] afterPoint ||
          (afterPoint.head?.any Char.isDigit && isFraction afterPoint)))
  else
    match parts ':' whole with
    | [] => false
    | [only] => isSpaced Char.isDigit only && isFraction afterPoint
    | first :: others =>
      isSpaced Char.isDigit first && others.all isSixtieth &&
        afterPoint.all (orGap Char.isDigit)

end TokenSplit.Yaml.Form
