import TokenSplit.Json
import TokenSplit.Usage

/-!
# Documents of usages

A usage of integers as a document.
-/

namespace TokenSplit

/-- The integer that a value is. -/
def Value.integer? : Value → Option Int
  | .int n => some n
  | _ => none

namespace Usage

/-- The entries that hold integers, in order. -/
def integers (u : Usage) : List (String × Int) :=
  u.entries.filterMap fun (key, value) => value.integer?.map (key, ·)

/-- The document of a usage, in which entries that hold no integers are left out. -/
def document (u : Usage) : Json :=
  .mapping (u.integers.map fun (key, n) => (key, .int n))

end Usage

end TokenSplit
