import Throughput.FileTree.Resolve

/-! Operations on a file tree: looking, reading, writing and making directories. -/

namespace Throughput.FileTree

def look (tree : FileTree) (path : Path) : Except SystemError Entry := do
  match ← tree.resolve .target path with
  | .found _ entry => return entry
  | .free _ _ => throw .notFound

/-- The reading of a file fails when it is opened, or later when it turns out a directory. -/
inductive ReadError
  | opening (cause : SystemError)
  | reading (cause : SystemError)
deriving DecidableEq

def ReadError.cause : ReadError → SystemError
  | .opening cause | .reading cause => cause

def read (tree : FileTree) (path : Path) : Except ReadError (List UInt8) :=
  match tree.look path with
  | .ok (.file content) => .ok content.read
  | .ok .directory => .error (.reading .isADirectory)
  | .ok (.link _) => .error (.opening .tooManyLinks)
  | .error cause => .error (.opening cause)

def destination (tree : FileTree) (path : Path) : Except SystemError Location := do
  match ← tree.resolve .newFile path with
  | .found location (.file _) => return location
  | .found _ .directory => throw .isADirectory
  | .found _ (.link _) => throw .tooManyLinks
  | .free location _ => return location

def write (tree : FileTree) (path : Path) (content : Content) : Except SystemError FileTree := do
  let location ← tree.destination path
  return tree.put location (.file content)

def makeDirectory (tree : FileTree) (path : Path) : Except SystemError FileTree := do
  match ← tree.resolve .name path with
  | .found _ _ => throw .alreadyExists
  | .free location _ => return tree.put location .directory

def makeDirectories (tree : FileTree) (path : Path) : FileTree :=
  (Location.ancestry path.names).foldl
    (fun tree names => (tree.makeDirectory (Path.ofNames path.isAbsolute names)).toOption.getD tree)
    tree

def makeLink (tree : FileTree) (path target : Path) : Except SystemError FileTree := do
  match ← tree.resolve .name path with
  | .found _ _ => throw .alreadyExists
  | .free location slashed =>
    if slashed then throw .notFound else return tree.put location (.link target)

def remove (tree : FileTree) (path : Path) : Except SystemError FileTree := do
  match ← tree.resolve .name path with
  | .found location _ => return tree.prune location
  | .free _ _ => throw .notFound

end Throughput.FileTree
