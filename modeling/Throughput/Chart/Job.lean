import Throughput.Chart.Spec
import Throughput.Path

/-! One chart to be made: a log, an output directory and the texts of the chart. -/

namespace Throughput

structure ChartJob where
  name : String
  input : Path
  outputDirectory : Path
  title : Option String
  fileName : Option String
  size : Option ImageSize
  presents : Bool
deriving DecidableEq

namespace ChartJob

def ofName (name : String) (input outputDirectory : Path) : ChartJob :=
  { name, input, outputDirectory, title := none, fileName := none, size := none, presents := true }

def effectiveTitle (job : ChartJob) : String := job.title.getD job.name

def chartSpec (job : ChartJob) : ChartSpec := .ofTitle job.effectiveTitle job.size

def outputPath (job : ChartJob) : Path :=
  job.outputDirectory.join (.ofText (job.fileName.getD (job.name ++ ".png")))

end ChartJob

end Throughput
