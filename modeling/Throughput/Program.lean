import Throughput.Commands.Batch
import Throughput.Commands.Info
import Throughput.Commands.Plot
import Throughput.Log.Filter

/-! The whole program: from its arguments and the file tree to its output and exit status. -/

namespace Throughput

def Command.run (colours : Bool) : Command → Run CommandError Unit
  | .plot options => options.run
  | .batch config backend => Batch.run config backend
  | .info file => Info.run colours file

structure Ending where
  tree : FileTree
  exitStatus : Nat
  output : String
  errors : String

namespace Program

def filter (verbosity : Nat) : Option String → LogFilter × List String
  | some text => LogFilter.parse text
  | none => (LogFilter.ofVerbosity verbosity, [])

def usageEnding (tree : FileTree) (error : UsageError) : Ending :=
  if error.isAnswer then ⟨tree, error.exitStatus, error.message ++ "\n", ""⟩
  else ⟨tree, error.exitStatus, "", error.message ++ "\n"⟩

def run (arguments : List Argument) (filterText : Option String) (tree : FileTree) : Ending :=
  match CommandLine.read arguments with
  | .error error => usageEnding tree error
  | .ok line =>
    let (filter, warnings) := filter line.verbosity filterText
    let (result, machine) := (line.command.run false).on (.ofTree tree)
    let records := (machine.records.filter filter.admits).map LogRecord.text
    let (status, failure) := match result with
      | .ok () => (0, [])
      | .error error => (1, [error.report ++ "\n"])
    ⟨machine.tree, status, machine.output,
      String.join (warnings.map (· ++ "\n") ++ records ++ failure)⟩

end Program

end Throughput
