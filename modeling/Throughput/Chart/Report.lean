import Throughput.Binary64.Text
import Throughput.OutputDirectory
import Throughput.Point

/-! What is reported about a finished chart. -/

namespace Throughput

structure ChartReport where
  samples : Nat
  output : Path
  directoryStatus : DirectoryStatus
  peak : Option Point
deriving DecidableEq

namespace ChartReport

def text (report : ChartReport) : String :=
  s!"{report.samples} samples -> " ++ report.output.display
    ++ (if report.directoryStatus = .created then " (directory created)" else "")
    ++ (match report.peak with
      | some peak => ", peak " ++ peak.rate.twoPlaces ++ " MB/s at " ++ peak.second.text .plain ++ "s"
      | none => "")

end ChartReport

end Throughput
