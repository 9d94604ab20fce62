import TokenSplit.Breakdown

/-!
# Usage

What a breakdown is reported as: named values in a fixed order.  The two cache entries go
together; they may be left out where neither holds a token, and reading a usage takes an absent
cache entry for zero.
-/

namespace TokenSplit

/-- Named values in written order. -/
structure Usage where
  entries : List (String × Value)

namespace Usage

/-- The name of the plain input. -/
def inputKey : String := "input_tokens"

/-- The name of the tokens written to the cache. -/
def creationKey : String := "cache_creation_input_tokens"

/-- The name of the tokens read from the cache. -/
def readKey : String := "cache_read_input_tokens"

/-- The name of the output. -/
def outputKey : String := "output_tokens"

/-- The value under a name. -/
def get? (u : Usage) (key : String) : Option Value :=
  u.entries.lookup key

/-- Writes a value under a name: a present name keeps its place, a new one goes to the end. -/
def put (u : Usage) (key : String) (value : Value) : Usage :=
  if u.entries.any fun e => e.1 == key then
    ⟨u.entries.map fun e => if e.1 == key then (key, value) else e⟩
  else
    ⟨u.entries ++ [(key, value)]⟩

/-- The breakdown that a usage reports; an absent cache entry holds no tokens. -/
def breakdown? (u : Usage) : Option Breakdown := do
  return {
    input := ← u.get? inputKey
    creation := (u.get? creationKey).getD (.count 0)
    read := (u.get? readKey).getD (.count 0) }

/-- The output that a usage reports, which is nothing where the entry is absent. -/
def output (u : Usage) : Value :=
  (u.get? outputKey).getD .null

/-- A usage as a value. -/
def toValue (u : Usage) : Value :=
  .mapping (u.entries.map fun e => (.text e.1, e.2))

end Usage

/-- Refuses an output below zero; nothing and zero are both fine. -/
def checkOutput (output : Value) : Except Fault Unit := do
  unless output.isNull do
    if ← output.isNegative then
      throw .outputNegative

/-- The usage of a breakdown with an output, if one is given; the output is checked first.  Cache
entries without tokens are left out where `omitEmpty` counts as true. -/
def Breakdown.usage (b : Breakdown) (output omitEmpty : Value) :
    Except Fault Usage := do
  checkOutput output
  let cached ← b.hasCache
  let cache :=
    if cached || !omitEmpty.isTrue then
      [(Usage.creationKey, b.creation), (Usage.readKey, b.read)]
    else
      []
  let last := if output.isNull then [] else [(Usage.outputKey, output)]
  return ⟨(Usage.inputKey, b.input) :: cache ++ last⟩

end TokenSplit
