import Throughput.Chart.Image
import Throughput.Path

/-! A tree of files, directories and symbolic links, with a working directory. -/

namespace Throughput

inductive Content
  | bytes (data : List UInt8)
  | image (value : Image)
deriving DecidableEq

namespace Content

/-- What a reader finds in a file. All that is told about an image stands at its start. -/
def read : Content → List UInt8
  | .bytes data => data
  | .image value => value.start

end Content

inductive Entry
  | file (content : Content)
  | link (target : Path)
  | directory
deriving DecidableEq

/-- The names from the root down to an entry. -/
abbrev Location := List (List UInt8)

def Location.ancestry (location : Location) : List Location :=
  (List.range location.length).map fun count => location.take (count + 1)

structure FileTree where
  entries : List (Location × Entry)
  workingDirectory : Location
deriving DecidableEq

namespace FileTree

/-- The entry at a location; the root is always a directory. -/
def lookup? (tree : FileTree) (location : Location) : Option Entry :=
  if location.isEmpty then some .directory
  else (tree.entries.find? fun held => held.1 == location).map Prod.snd

def putIn (location : Location) (entry : Entry) :
    List (Location × Entry) → List (Location × Entry)
  | [] => [(location, entry)]
  | held :: rest =>
    if held.1 = location then (location, entry) :: rest else held :: putIn location entry rest

def put (tree : FileTree) (location : Location) (entry : Entry) : FileTree :=
  { tree with entries := putIn location entry tree.entries }

def prune (tree : FileTree) (location : Location) : FileTree :=
  { tree with entries := tree.entries.filter fun held => !location.isPrefixOf held.1 }

def empty (workingDirectory : Location) : FileTree :=
  { entries := workingDirectory.ancestry.map fun location => (location, .directory)
    workingDirectory }

end FileTree

end Throughput
