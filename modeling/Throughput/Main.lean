import Throughput.Program

/-! The command line. It takes in the part of the file system that a run may look at, runs the
program on it, and puts what the run has written in place.

Symbolic links are taken in as what they lead to. An image is put in place as the start of its
file; its pixels are not computed. -/

namespace Throughput

namespace CommandLine

def jobPaths (job : ChartJob) : List Path := [job.input, job.outputDirectory, job.outputPath]

/-- The paths that a run may look at, as far as a tree tells. A batch learns the paths of its
charts from its configuration. -/
def paths (line : CommandLine) (tree : FileTree) : List Path :=
  match line.command with
  | .plot options => (options.chartName?.map fun name => jobPaths (options.job name)).getD []
  | .info file => [file]
  | .batch config _ =>
    let jobs := match (Config.load config).on (.ofTree tree) with
      | (.ok config, _) => config.jobs.toOption.getD []
      | _ => []
    config :: jobs.flatMap jobPaths

end CommandLine

namespace FileTree

def since (tree earlier : FileTree) : List (Location × Entry) :=
  tree.entries.filter fun held => earlier.lookup? held.1 != some held.2

end FileTree

namespace Main

def filterVariable : String := "RUST_LOG"

def fileName (location : Location) : String := (Path.ofNames true location).display

def takeIn (tree : FileTree) (location : Location) : IO FileTree := do
  let place := (← IO.currentDir) / fileName location
  if ← place.isDir then return tree.put location .directory
  else if ← place.pathExists then
    return tree.put location (.file (.bytes (← IO.FS.readBinFile place).toList))
  else return tree

def takeInAll (tree : FileTree) (paths : List Path) : IO FileTree :=
  paths.foldlM (fun tree path =>
    (Location.ancestry (path.origin tree.workingDirectory ++ path.names)).foldlM takeIn tree) tree

def putBack (location : Location) : Entry → IO Unit
  | .file content => IO.FS.writeBinFile (fileName location) ⟨content.read.toArray⟩
  | .directory => IO.FS.createDir (fileName location)
  | .link _ => return

def startingTree (arguments : List Argument) : IO FileTree := do
  let tree := FileTree.empty (Path.ofText (← IO.currentDir).toString).names
  match CommandLine.read arguments with
  | .ok line =>
    let tree ← takeInAll tree (line.paths tree)
    takeInAll tree (line.paths tree)
  | .error _ => return tree

end Main

end Throughput

open Throughput in
def main (arguments : List String) : IO UInt32 := do
  let arguments := arguments.map Utf8.bytes
  let tree ← Main.startingTree arguments
  let ending := Program.run arguments (← IO.getEnv Main.filterVariable) tree
  IO.eprint ending.errors
  for (location, entry) in ending.tree.since tree do
    Main.putBack location entry
  IO.print ending.output
  return .ofNat ending.exitStatus
