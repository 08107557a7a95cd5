import Throughput.FileTree.Basic
import Throughput.FileTree.SystemError

/-! Where a path leads in a file tree, through directories and symbolic links. -/

namespace Throughput

inductive Place
  | found (location : Location) (entry : Entry)
  /-- A free name in an existing directory; a slash after the name asks for a directory. -/
  | free (location : Location) (slashed : Bool)
deriving DecidableEq

structure Route where
  names : List (List UInt8)
  slashed : Bool
deriving DecidableEq

namespace Path

def route (path : Path) : Route := ⟨path.names, path.endsWithSlash⟩

def origin (path : Path) (directory : Location) : Location :=
  if path.isAbsolute then [] else directory

def lengthLimit : Nat := 4095

def nameLimit : Nat := 255

end Path

namespace FileTree

inductive Purpose
  | target
  /-- The name at its end; a symbolic link there is not followed. -/
  | name
  /-- A file, which is made if it is missing; no slash may follow its name. -/
  | newFile
deriving DecidableEq

/-- Follows the names of a route from a directory. `onLink` goes on behind a symbolic link. -/
def visit (lookup? : Location → Option Entry) (purpose : Purpose) (slashed : Bool)
    (onLink : Location → Route → Except SystemError Place) :
    Location → List (List UInt8) → Except SystemError Place
  | directory, [] => .ok (.found directory .directory)
  | directory, name :: rest =>
    if name = Path.here then visit lookup? purpose slashed onLink directory rest
    else if name = Path.above then visit lookup? purpose slashed onLink directory.dropLast rest
    else if rest.isEmpty && slashed && purpose == .newFile then .error .isADirectory
    else if name.length > Path.nameLimit then .error .nameTooLong
    else
      match lookup? (directory ++ [name]) with
      | none =>
        if rest.isEmpty then .ok (.free (directory ++ [name]) slashed) else .error .notFound
      | some (.file content) =>
        if rest.isEmpty && !slashed then .ok (.found (directory ++ [name]) (.file content))
        else .error .notADirectory
      | some .directory => visit lookup? purpose slashed onLink (directory ++ [name]) rest
      | some (.link target) =>
        if rest.isEmpty && purpose == .name then
          .ok (.found (directory ++ [name]) (.link target))
        else
          onLink (target.origin directory)
            { names := target.names ++ rest
              slashed := slashed || (rest.isEmpty && target.endsWithSlash) }

/-- Follows a route through at most the given number of symbolic links. -/
def follow (lookup? : Location → Option Entry) (purpose : Purpose) :
    Nat → Location → Route → Except SystemError Place
  | 0, directory, route =>
    visit lookup? purpose route.slashed (fun _ _ => .error .tooManyLinks) directory route.names
  | links + 1, directory, route =>
    visit lookup? purpose route.slashed (follow lookup? purpose links) directory route.names

def linkLimit : Nat := 40

def resolve (tree : FileTree) (purpose : Purpose) (path : Path) : Except SystemError Place :=
  if path.bytes.contains 0 then .error .nulInName
  else if path.bytes.isEmpty then .error .notFound
  else if path.bytes.length > Path.lengthLimit then .error .nameTooLong
  else follow tree.lookup? purpose linkLimit (path.origin tree.workingDirectory) path.route

end FileTree

end Throughput
