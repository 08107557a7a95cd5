import Throughput.Commands.Failure
import Throughput.Summary.Text

/-! The info command: the summary of one log. -/

namespace Throughput.Info

def run (colours : Bool) (file : Path) : Run CommandError Unit := do
  let table ← Run.within .log (loadRates file)
  Run.writeLine ("File: " ++ file.display)
  Run.write ((RateSummary.ofTable table).styledText colours)

end Throughput.Info
