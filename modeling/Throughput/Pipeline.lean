import Throughput.Chart.Job
import Throughput.Chart.Report
import Throughput.OutputDirectory
import Throughput.Render.Renderer
import Throughput.Summary
import Throughput.Table.Load

/-! Making one chart: load the log, derive the rates, ensure the output directory, render, present.

The first failure ends the job; a failure to present does not count. -/

namespace Throughput

inductive PipelineError
  | load (input : Path) (cause : LoadError)
  | transform (cause : ShapeError)
  | output (cause : OutputError)
  | render (cause : RenderError)

namespace PipelineError

def message : PipelineError → String
  | .load input cause => "Failed to load " ++ input.display ++ ": " ++ cause.message
  | .transform cause => "Transform error: " ++ cause.message
  | .output cause => "Output error: " ++ cause.message
  | .render cause => "Render error: " ++ cause.message

def causes : PipelineError → List String
  | .load _ cause => cause.message :: cause.causes
  | .transform cause => [cause.message]
  | .output cause => cause.message :: cause.causes
  | .render cause => cause.message :: cause.causes

end PipelineError

namespace Renderer

def perform (work : FileTree → Outcome) : Run RenderError Unit := do
  let outcome := work (← Run.tree)
  Run.setTree outcome.tree
  outcome.records.forM fun record => Run.note (.record record)
  Run.lift id outcome.result

end Renderer

def loadRates (input : Path) : Run PipelineError RateTable := do
  let samples ← Run.within (.load input) (SampleTable.load input)
  Run.lift .transform (RateTable.ofSamples samples)

namespace ChartJob

def presentOutput (renderer : Renderer) (output : Path) : Run PipelineError Unit := do
  Run.step (.present output)
  match ← Run.attempt (Renderer.perform (renderer.present output)) with
  | .ok () => return
  | .error error =>
    Run.log .warn .pipeline ("Could not present " ++ output.display ++ ": " ++ error.message)

def run (job : ChartJob) (renderer : Renderer) : Run PipelineError ChartReport := do
  Run.log .info .pipeline ("Chart '" ++ job.name ++ "': " ++ job.input.display)
  Run.step (.load job.input)
  let table ← loadRates job.input
  Run.step (.ensureDirectory job.outputDirectory)
  let directoryStatus ← Run.within .output (ensureDirectory job.outputDirectory)
  let output := job.outputPath
  let (seconds, rates) := table.series
  Run.step (.render seconds rates job.chartSpec output)
  Run.within .render (Renderer.perform (renderer.render seconds rates job.chartSpec output))
  Run.log .info .pipeline
    ("Wrote " ++ output.display ++ s!" ({table.length} samples, " ++ renderer.name ++ " backend)")
  if job.presents then presentOutput renderer output
  return { samples := table.length, output, directoryStatus, peak := (RateSummary.ofTable table).peak }

end ChartJob

end Throughput
