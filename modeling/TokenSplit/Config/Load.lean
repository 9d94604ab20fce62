import TokenSplit.Host

/-!
# Loading configurations

Reading a configuration from a file: its octets have to be a document, and the value of the
document a configuration.
-/

namespace TokenSplit.Config

/-- The configuration that octets give; `path` is named if they are no document. -/
def ofOctets (host : Host) (path : String) (octets : List UInt8) : Except Fault Config :=
  match host.read octets with
  | .ok value => ofValue host.arrangement value
  | .error (.malformed diagnostic) => .error (.malformed path diagnostic)
  | .error (.failed fault) => .error fault

/-- The configuration in the file at a path. -/
def load (host : Host) (path : String) : Except Fault Config :=
  let normal := Path.ofString path
  match host.disk.find normal with
  | .missing => .error (.fileMissing path)
  | .tooLong => .error (.nameTooLong normal.render)
  | .found .directory => .error (.fileIsDirectory normal.render)
  | .found (.file octets) => ofOctets host path octets

end TokenSplit.Config
