/-!
# Ratios

A ratio says how many parts of a prompt count as plain input, as cache creation and as cache
reads, and from which token count on it applies.  That the parts are not all zero belongs to the
type, so dividing by their sum never needs a check.
-/

namespace TokenSplit

/-- Three parts, not all zero, and the token count from which on they apply. -/
structure Ratio where
  input : Nat
  creation : Nat
  read : Nat
  threshold : Nat
  parts_pos : 0 < input + creation + read := by decide
deriving DecidableEq, Repr

namespace Ratio

/-- The ratio used where none is given: 1 : 2 : 25 from 100 tokens on. -/
def standard : Ratio where
  input := 1
  creation := 2
  read := 25
  threshold := 100

/-- The number of parts that one cycle of tokens is divided into. -/
def totalParts (r : Ratio) : Nat :=
  r.input + r.creation + r.read

theorem totalParts_pos (r : Ratio) : 0 < r.totalParts :=
  r.parts_pos

/-- The four numbers of a ratio, in the order in which they are given and checked. -/
inductive Field where
  | input
  | creation
  | read
  | threshold
deriving DecidableEq, Repr

namespace Field

/-- The name under which a number of a ratio is given. -/
def name : Field → String
  | .input => "input_part"
  | .creation => "creation_part"
  | .read => "read_part"
  | .threshold => "threshold"

/-- All fields, in order. -/
def all : List Field :=
  [.input, .creation, .read, .threshold]

end Field

/-- The number of a ratio that a field names. -/
def get (r : Ratio) : Field → Nat
  | .input => r.input
  | .creation => r.creation
  | .read => r.read
  | .threshold => r.threshold

end Ratio

end TokenSplit
