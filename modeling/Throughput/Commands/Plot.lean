import Throughput.Commands.Failure
import Throughput.CommandLine.Basic

/-! The plot command: one chart from one log. -/

namespace Throughput.PlotOptions

def chartName? (options : PlotOptions) : Option String :=
  options.name <|> options.input.fileStem?.map Utf8.lossy

def job (options : PlotOptions) (name : String) : ChartJob :=
  { name
    input := options.input
    outputDirectory := options.outputDirectory
    title := options.title
    fileName := options.fileName
    size := options.size
    presents := options.presents }

def run (options : PlotOptions) : Run CommandError Unit := do
  let name ← match options.chartName? with
    | some name => pure name
    | none => throw (.noChartName options.input)
  let job := options.job name
  let renderer ← Run.lift .backend options.backend.renderer
  Run.log .info .plotCommand ("Backend: " ++ options.backend.name)
  let report ← Run.within (.chart name) (job.run renderer)
  Run.writeLine report.text

end Throughput.PlotOptions
