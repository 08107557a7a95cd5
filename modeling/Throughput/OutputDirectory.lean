import Throughput.Run

/-! Making sure that an output directory is there. Only the directory itself is ever made, never
the ones above it. -/

namespace Throughput

inductive DirectoryStatus
  | created
  | existing
deriving DecidableEq

inductive OutputError
  | io (directory : Path) (cause : SystemError)
  | notADirectory (path : Path)
deriving DecidableEq

namespace OutputError

def message : OutputError → String
  | .io directory cause => "I/O error creating " ++ directory.display ++ ": " ++ cause.message
  | .notADirectory path => "Not a directory: " ++ path.display

def causes : OutputError → List String
  | .io _ cause => [cause.message]
  | .notADirectory _ => []

end OutputError

def ensureDirectory (directory : Path) : Run OutputError DirectoryStatus := do
  let tree ← Run.tree
  match tree.look directory with
  | .ok .directory =>
    Run.log .debug .output ("Output directory " ++ directory.display ++ " already exists")
    return .existing
  | .ok _ => throw (.notADirectory directory)
  | .error .notFound =>
    Run.setTree (← Run.lift (.io directory) (tree.makeDirectory directory))
    Run.log .info .output ("Created output directory " ++ directory.display)
    return .created
  | .error cause => throw (.io directory cause)

end Throughput
