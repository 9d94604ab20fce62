import TokenSplit.Calendar

/-!
# Written dates and moments

The fields of a date, or of a date with a time of day, as digits.  A text that is recognised
without a tag needs two digits for the month and the day of a date alone.
-/

namespace TokenSplit.Yaml

/-- A distance from universal time as written. -/
inductive Zone where
  | universal
  | shifted (negative : Bool) (hour minute : Nat)

/-- A time of day as written; the fraction of a second is kept as digits. -/
structure Clock where
  hour : Nat
  minute : Nat
  second : Nat
  fraction : List Char
  zone : Option Zone

/-- A date as written, with the time of day if there is one. -/
structure Stamp where
  year : Nat
  month : Nat
  day : Nat
  strict : Bool
  clock : Option Clock

namespace Stamp

/-- The number that digits write. -/
def number (digits : List Char) : Nat :=
  digits.foldl (fun n d => n * 10 + (d.toNat - 48)) 0

/-- A number of at least `least` and at most `most` digits, and what follows it. -/
def field? (least most : Nat) (s : List Char) : Option (List Char × List Char) :=
  let digits := (s.take most).takeWhile Char.isDigit
  if least ≤ digits.length then some (digits, s.drop digits.length) else none

/-- Drops an expected character. -/
def mark? (c : Char) : List Char → Option (List Char)
  | [] => none
  | d :: rest => if c = d then some rest else none

/-- Whether a character may stand between the date and the time, or before the zone. -/
def isSpace (c : Char) : Bool :=
  c == ' ' || c == '\t'

/-- What separates the date from the time: a letter, or blanks. -/
def gap? : List Char → Option (List Char)
  | [] => none
  | c :: rest =>
    if c = 'T' ∨ c = 't' then some rest
    else if isSpace c then some (rest.dropWhile isSpace)
    else none

/-- A zone, with nothing after it. -/
def zone? (s : List Char) : Option Zone :=
  match s with
  | ['Z'] => some .universal
  | sign :: rest => do
    if sign ≠ '-' ∧ sign ≠ '+' then none
    let (hour, rest) ← field? 1 2 rest
    match rest with
    | [] => some (.shifted (sign = '-') (number hour) 0)
    | ':' :: rest =>
      let (minute, rest) ← field? 2 2 rest
      if rest.isEmpty then some (.shifted (sign = '-') (number hour) (number minute)) else none
    | _ => none
  | [] => none

/-- A time of day, with nothing after it. -/
def clock? (s : List Char) : Option Clock := do
  let (hour, rest) ← field? 1 2 s
  let (minute, rest) ← field? 2 2 (← mark? ':' rest)
  let (second, rest) ← field? 2 2 (← mark? ':' rest)
  let (fraction, rest) := match rest with
    | '.' :: rest => (rest.takeWhile Char.isDigit, rest.dropWhile Char.isDigit)
    | rest => ([], rest)
  let clock := Clock.mk (number hour) (number minute) (number second) fraction
  if rest.isEmpty then some (clock none)
  else some (clock (some (← zone? (rest.dropWhile isSpace))))

/-- Reads a date, or a date with a time of day. -/
def read? (s : List Char) : Option Stamp := do
  let (year, rest) ← field? 4 4 s
  let (month, rest) ← field? 1 2 (← mark? '-' rest)
  let (day, rest) ← field? 1 2 (← mark? '-' rest)
  let strict := month.length = 2 ∧ day.length = 2
  let stamp := Stamp.mk (number year) (number month) (number day) strict
  if rest.isEmpty then some (stamp none)
  else some (stamp (some (← clock? (← gap? rest))))

/-- Whether a text is recognised as a date or a moment without a tag. -/
def isPlain (s : List Char) : Bool :=
  match read? s with
  | some stamp => stamp.strict || stamp.clock.isSome
  | none => false

/-- Microseconds, from the first six digits of a fraction. -/
def microseconds (fraction : List Char) : Nat :=
  let digits := fraction.take 6
  number (digits ++ List.replicate (6 - digits.length) '0')

end Stamp

end TokenSplit.Yaml
