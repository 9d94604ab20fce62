import TokenSplit.Config
import TokenSplit.Disk
import TokenSplit.Yaml.Document

/-!
# Hosts

What a run finds in place: the files, a reader of documents, and the order in which the members of
a set are listed.  Nothing is known of the reader but that it gives a value or refuses the octets.
-/

namespace TokenSplit

/-- Why a reader gives no value: the octets are no document, for a reason that it words itself, or
something else went wrong. -/
inductive Refusal where
  | malformed (diagnostic : String)
  | failed (fault : Fault)

/-- What reads the value of a document from its octets. -/
abbrev Reader := List UInt8 → Except Refusal Value

/-- The reader that takes the octets for text as a whole and words no reasons. -/
def Yaml.reader : Reader := fun octets =>
  match Text.decodeUtf8 octets with
  | .error fault => .error (.failed (.undecodable fault))
  | .ok s =>
    match Yaml.read s with
    | .ok value => .ok value
    | .error (.refused fault) => .error (.failed fault)
    | .error _ => .error (.malformed "")

/-- What a run finds in place. -/
structure Host where
  disk : Disk
  read : Reader
  arrangement : Arrangement

/-- A disk with the reader of this library and with sets in order. -/
def Host.standard (disk : Disk) : Host where
  disk := disk
  read := Yaml.reader
  arrangement := .sorted

instance : Coe Disk Host where
  coe := Host.standard

end TokenSplit
