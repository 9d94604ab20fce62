/-!
# Disks

Files and directories, and finding them by paths.  A path is first freed of the parts that say
nothing; then it is followed part by part, from the working directory or from the root.
-/

namespace TokenSplit

/-- A path without empty parts and dots; `root` is what stands before its first part. -/
structure Path where
  root : String
  parts : List String
deriving DecidableEq, Repr

namespace Path

/-- Reads a path.  Two slashes at the beginning differ from one and from more. -/
def ofString (s : String) : Path where
  root :=
    match s.toList with
    | '/' :: '/' :: '/' :: _ => "/"
    | '/' :: '/' :: _ => "//"
    | '/' :: _ => "/"
    | _ => ""
  parts :=
    ((s.toList.splitOn '/').map String.ofList).filter fun part => part ≠ "" ∧ part ≠ "."

/-- The text of a path, which is a dot if there is nothing to say. -/
def render (p : Path) : String :=
  let s := p.root ++ "/".intercalate p.parts
  if s = "" then "." else s

/-- The most octets that a path has with the end mark behind it. -/
def lengthLimit : Nat := 4096

/-- The most octets that a part of a path has. -/
def partLimit : Nat := 255

end Path

/-- What stands at a place. -/
inductive Node where
  | directory
  | file (octets : List UInt8)
deriving DecidableEq, Repr

/-- A place, as the names that lead to it from the root. -/
abbrev Place := List String

/-- The place that one part of a path leads to; above the root there is only the root. -/
def Place.enter (place : Place) (part : String) : Place :=
  if part = ".." then place.dropLast else place ++ [part]

/-- Files and directories by their places; `home` is the working directory. -/
structure Disk where
  home : Place
  nodes : List (Place × Node)

/-- What following a path comes to. -/
inductive Lookup where
  | missing
  | tooLong
  | found (node : Node)
deriving DecidableEq, Repr

namespace Disk

/-- A disk without files. -/
def empty : Disk where
  home := ["home"]
  nodes := []

/-- What stands at a place; the working directory and all above it are directories. -/
def node? (d : Disk) (place : Place) : Option Node :=
  if place.isPrefixOf d.home then some .directory else d.nodes.lookup place

/-- Follows the parts of a path from a place. -/
def follow (d : Disk) : Place → List String → Lookup
  | place, [] =>
    match d.node? place with
    | some node => .found node
    | none => .missing
  | place, part :: rest =>
    match d.node? place with
    | some .directory =>
      if Path.partLimit < part.utf8ByteSize then .tooLong
      else d.follow (place.enter part) rest
    | _ => .missing

/-- The place where a path begins. -/
def origin (d : Disk) (p : Path) : Place :=
  if p.root = "" then d.home else []

/-- Finds what a path leads to. -/
def find (d : Disk) (p : Path) : Lookup :=
  let text := p.render
  if text.toList.contains '\x00' then .missing
  else if Path.lengthLimit ≤ text.utf8ByteSize then .tooLong
  else d.follow (d.origin p) p.parts

/-- Puts a node at a place. -/
def set (d : Disk) (place : Place) (node : Node) : Disk :=
  { d with nodes := (place, node) :: d.nodes.filter fun n => n.1 ≠ place }

/-- Makes a directory at a place, unless something stands there. -/
def makeDirectory (d : Disk) (place : Place) : Disk :=
  if (d.node? place).isSome then d else d.set place .directory

/-- The places that a path leads through, its end included. -/
def places (d : Disk) (p : Path) : List Place :=
  (List.range (p.parts.length + 1)).map fun n => (p.parts.take n).foldl Place.enter (d.origin p)

/-- Puts a node at a path and makes the directories that lead to it. -/
def write (d : Disk) (path : String) (node : Node) : Disk :=
  let places := d.places (Path.ofString path)
  match places.getLast? with
  | some last => (places.dropLast.foldl makeDirectory d).set last node
  | none => d

/-- Takes away what stands at a path. -/
def remove (d : Disk) (path : String) : Disk :=
  let places := d.places (Path.ofString path)
  { d with nodes := d.nodes.filter fun n => some n.1 ≠ places.getLast? }

end Disk

end TokenSplit
