import Throughput.Chart.Job
import Throughput.Render.Backend

/-! Batch configurations: a list of charts, and defaults for what they leave out. -/

namespace Throughput

structure ChartDefaults where
  outputDirectory : Option Path
  presents : Option Bool
  backend : Option String
deriving DecidableEq

namespace ChartDefaults

def none : ChartDefaults := ⟨.none, .none, .none⟩

end ChartDefaults

structure ChartEntry where
  name : String
  input : Path
  outputDirectory : Option Path
  title : Option String
  fileName : Option String
  size : Option ImageSize
  presents : Option Bool
deriving DecidableEq

structure Config where
  defaults : ChartDefaults
  charts : List ChartEntry
deriving DecidableEq

structure MissingDirectory where
  chart : String
deriving DecidableEq

def MissingDirectory.message (error : MissingDirectory) : String :=
  "Chart '" ++ error.chart ++ "' has no output_dir and no default is set"

namespace ChartEntry

/-- The job of an entry; what the entry leaves out comes from the defaults, and images are
presented unless told otherwise. -/
def job (defaults : ChartDefaults) (entry : ChartEntry) : Except MissingDirectory ChartJob :=
  match entry.outputDirectory <|> defaults.outputDirectory with
  | none => .error ⟨entry.name⟩
  | some outputDirectory =>
    .ok
      { name := entry.name
        input := entry.input
        outputDirectory
        title := entry.title
        fileName := entry.fileName
        size := entry.size
        presents := (entry.presents <|> defaults.presents).getD true }

end ChartEntry

namespace Config

def jobs (config : Config) : Except MissingDirectory (List ChartJob) :=
  config.charts.mapM (ChartEntry.job config.defaults)

def backend (config : Config) : Except String (Option Backend) :=
  match config.defaults.backend with
  | none => .ok none
  | some name => (Backend.ofName name).map some

end Config

end Throughput
