import TokenSplit.Decimal.Read
import TokenSplit.Text.Lower
import TokenSplit.Yaml.Tag
import TokenSplit.Yaml.Token

/-!
# Scalars of documents

The value that a text has under a tag.  A text recognised by its form always has one; under a
written tag it may be refused, each kind of scalar in its own way.
-/

namespace TokenSplit.Yaml

/-- A result that may be refused. -/
def orRefused {α : Type} : Except Fault α → Reading α
  | .ok a => .ok a
  | .error fault => .error (.refused fault)

/-- Whether a number is negative, and the number without its sign; a number without a character
is refused. -/
def takeSign (s : List Char) : Reading (Bool × List Char) :=
  match s with
  | [] => .error (.refused .numeralEmpty)
  | '-' :: rest => .ok (true, rest)
  | '+' :: rest => .ok (false, rest)
  | s => .ok (false, s)

/-- A number with the sign that stood in front of it. -/
def withSign (negative : Bool) (n : Int) : Int :=
  if negative then -n else n

/-- An integer without a sign. -/
def readMagnitude (s : List Char) : Reading Int :=
  match s with
  | [] => .error (.refused .numeralEmpty)
  | ['0'] => .ok 0
  | '0' :: 'b' :: rest => orRefused (Decimal.integer 2 rest)
  | '0' :: 'x' :: rest => orRefused (Decimal.integer 16 rest)
  | '0' :: rest => orRefused (Decimal.integer 8 ('0' :: rest))
  | s =>
    if s.contains ':' then do
      let parts ← (Form.parts ':' s).mapM fun part => orRefused (Decimal.integer 10 part)
      return parts.foldl (fun n part => n * 60 + part) 0
    else
      orRefused (Decimal.integer 10 s)

/-- An integer; underscores are only for the eye. -/
def readInt (s : List Char) : Reading Int := do
  let (negative, body) ← takeSign (s.filter (· != '_'))
  return withSign negative (← readMagnitude body)

/-- The sum of parts in base sixty, the last part first. -/
def sumSixtieths (parts : List Float) : Except Fault Float :=
  parts.zipIdx.foldlM (fun sum (part, power) =>
    match Decimal.ofInt? (Int.pow 60 power) with
    | some weight => .ok (sum + part * weight)
    | none => .error .integerTooLarge) 0.0

/-- A binary number; underscores are only for the eye. -/
def readFloat (s : List Char) : Reading Float := do
  let (negative, body) ← takeSign (Text.lower (s.filter (· != '_')))
  let magnitude ←
    if body = ".inf".toList then pure (1.0 / 0.0)
    else if body = ".nan".toList then return 0.0 / 0.0
    else if body.contains ':' then do
      let parts ← (Form.parts ':' body).mapM fun part => orRefused (Decimal.float part)
      orRefused (sumSixtieths parts.reverse)
    else
      orRefused (Decimal.float body)
  return if negative then -magnitude else magnitude

/-- A flag. -/
def readBool (s : List Char) : Reading Bool :=
  let word := String.ofList (Text.lower s)
  if word = "yes" ∨ word = "true" ∨ word = "on" then .ok true
  else if word = "no" ∨ word = "false" ∨ word = "off" then .ok false
  else .error (.refused (.flagUnknown word))

/-- The date or the moment of a stamp. -/
def Stamp.value (stamp : Stamp) : Except CalendarFault Scalar := do
  match stamp.clock with
  | none => return .date (← Date.ofFields stamp.year stamp.month stamp.day)
  | some clock =>
    let offset ←
      match clock.zone with
      | none => pure none
      | some .universal => pure (some 0)
      | some (.shifted negative hour minute) =>
        some <$> Moment.checkOffset (withSign negative (hour * 60 + minute : Nat))
    return .moment (← Moment.ofFields stamp.year stamp.month stamp.day clock.hour clock.minute
      clock.second (Stamp.microseconds clock.fraction) offset)

/-- A date or a moment; a line end after it does not matter. -/
def readStamp (s : List Char) : Reading Scalar :=
  let line := if s.getLast? = some '\n' then s.dropLast else s
  match Stamp.read? line with
  | none => .error (.refused .notMoment)
  | some stamp =>
    match stamp.value with
    | .ok scalar => .ok scalar
    | .error fault => .error (.refused (.calendar fault))

/-- The value of a digit in base 64. -/
def sixtyFourth? (c : Char) : Option Nat :=
  let n := c.toNat
  if 65 ≤ n ∧ n ≤ 90 then some (n - 65)
  else if 97 ≤ n ∧ n ≤ 122 then some (n - 71)
  else if 48 ≤ n ∧ n ≤ 57 then some (n + 4)
  else if c = '+' then some 62
  else if c = '/' then some 63
  else none

/-- Reads octets from digits in base 64, four digits for three octets.  `place` counts the digits
of the current four, `left` holds the bits that no octet has taken yet, and `pads` counts the
equals signs since the last digit; the one that completes the four ends the text.  What is no
digit is skipped. -/
def readOctets (place left pads : Nat) : List Char → Reading (List UInt8)
  | [] => if place = 0 then .ok [] else malformed
  | c :: rest =>
    if c = '=' then
      if 2 ≤ place then
        if 4 ≤ place + pads + 1 then .ok [] else readOctets place left (pads + 1) rest
      else
        readOctets place left pads rest
    else
      match sixtyFourth? c with
      | none => readOctets place left pads rest
      | some d =>
        let octet (n : Nat) : UInt8 := UInt8.ofNat n
        match place with
        | 0 => readOctets 1 d 0 rest
        | 1 => (octet (left * 4 + d / 16) :: ·) <$> readOctets 2 (d % 16) 0 rest
        | 2 => (octet (left * 16 + d / 4) :: ·) <$> readOctets 3 (d % 4) 0 rest
        | _ => (octet (left * 64 + d) :: ·) <$> readOctets 0 0 0 rest

/-- Octets written in base 64, in ASCII. -/
def readBinary (s : List Char) : Reading (List UInt8) :=
  if s.any fun c => 0x80 ≤ c.toNat then malformed else readOctets 0 0 0 s

/-- The value of a text under a tag; tags of collections and unknown tags have none. -/
def readScalar (tag : Tag) (s : List Char) : Reading Scalar :=
  match tag with
  | .null => .ok .null
  | .bool => Scalar.bool <$> readBool s
  | .int => Scalar.int <$> readInt s
  | .float => Scalar.float <$> readFloat s
  | .binary => Scalar.octets <$> readBinary s
  | .stamp => readStamp s
  | .text => .ok (.text (String.ofList s))
  | _ => malformed

/-- A text that holds codes of no characters, in quotes. -/
def quotedCodes (codes : List Nat) : String :=
  String.ofList (Text.quotedCodes codes)

/-- The value, under a tag, of a text that holds codes of no characters.  It is a text; it has the
form of nothing else. -/
def readCodes (tag : Tag) (codes : List Nat) : Reading Scalar :=
  match tag with
  | .null => .ok .null
  | .bool =>
    let lower (n : Nat) : List Nat :=
      if n.isValidChar then (Text.lower [Char.ofNat n]).map Char.toNat else [n]
    .error (.refused (.foreign .key (quotedCodes (codes.flatMap lower))))
  | .int =>
    .error (.refused (.foreign .value
      ("invalid literal for int() with base 10: " ++ quotedCodes codes)))
  | .float =>
    .error (.refused (.foreign .value
      ("could not convert string to float: " ++ quotedCodes codes)))
  | .stamp => .error (.refused .notMoment)
  | .text => .ok (.codes codes)
  | _ => malformed

/-- The value of the text of a scalar under a tag. -/
def readContent (tag : Tag) : Content → Reading Scalar
  | .chars s => readScalar tag s.toList
  | .codes c => readCodes tag c

end TokenSplit.Yaml
