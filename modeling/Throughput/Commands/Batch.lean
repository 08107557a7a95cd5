import Throughput.Commands.Failure

/-! The batch command: all charts of a configuration file, one after the other. -/

namespace Throughput

namespace Config

def readText (tree : FileTree) (path : Path) : Except TextError String :=
  match tree.read path with
  | .ok bytes =>
    match Utf8.text? bytes with
    | some text => .ok text
    | none => .error .notText
  | .error error => .error (.system error.cause)

def load (path : Path) : Run CommandError Config := do
  let text ← Run.lift (.unreadConfig path) (readText (← Run.tree) path)
  Run.lift .malformedConfig (parse text)

/-- A backend that is asked for wins against the one in the configuration. -/
def chosenBackend (config : Config) (override : Option Backend) : Except String Backend :=
  match override with
  | some backend => .ok backend
  | none => (·.getD default) <$> config.backend

end Config

namespace Batch

def runJobs (renderer : Renderer) (total : Nat) : Nat → List ChartJob → Run CommandError Unit
  | _, [] => pure ()
  | done, job :: rest => do
    let report ← Run.within (.batchChart (done + 1) total job.name) (job.run renderer)
    Run.writeLine report.text
    runJobs renderer total (done + 1) rest

def run (path : Path) (override : Option Backend) : Run CommandError Unit := do
  let config ← Config.load path
  let jobs ← Run.lift .missingDirectory config.jobs
  let backend ← Run.lift .unknownBackend (config.chosenBackend override)
  Run.log .info .batchCommand
    ("Batch " ++ path.display ++ s!": {jobs.length} chart(s), " ++ backend.name ++ " backend")
  let renderer ← Run.lift .backend backend.renderer
  runJobs renderer jobs.length 0 jobs

end Batch

end Throughput
