import TokenSplit.Yaml.Form
import TokenSplit.Yaml.Stamp

/-!
# Tags

What a node of a document is.  A tag may be written; a text without one is recognised by its form
if it is plain, and is a text otherwise.
-/

namespace TokenSplit.Yaml

/-- The tags that have a meaning. -/
inductive Tag where
  | null
  | bool
  | int
  | float
  | binary
  | stamp
  | text
  | sequence
  | mapping
  | set
  | pairs
  | omap
  | merge
  | value
  | unknown
deriving DecidableEq, Repr

namespace Tag

/-- What the names of all standard tags begin with. -/
def standard : String := "tag:yaml.org,2002:"

/-- The standard tags and their names. -/
def names : List (String × Tag) :=
  [("null", .null), ("bool", .bool), ("int", .int), ("float", .float), ("binary", .binary),
   ("timestamp", .stamp), ("str", .text), ("seq", .sequence), ("map", .mapping), ("set", .set),
   ("pairs", .pairs), ("omap", .omap), ("merge", .merge), ("value", .value)]

/-- The tag of a full name. -/
def ofName (name : String) : Tag :=
  match names.find? fun entry => standard ++ entry.1 == name with
  | some (_, tag) => tag
  | none => .unknown

/-- The tag of a plain text without line end. -/
def ofLine (s : List Char) : Tag :=
  if Form.isBool s then .bool
  else if Form.isFloat s then .float
  else if Form.isInt s then .int
  else if s = ['<', '<'] then .merge
  else if Form.isNull s then .null
  else if Stamp.isPlain s then .stamp
  else if s = ['='] then .value
  else if s = ['!'] ∨ s = ['&'] ∨ s = ['*'] then .unknown
  else .text

/-- The tag of a plain text; a line end after it does not change its form. -/
def ofPlain (s : List Char) : Tag :=
  match s.reverse with
  | '\n' :: _ :: _ => ofLine s.dropLast
  | _ => ofLine s

end Tag

end TokenSplit.Yaml
