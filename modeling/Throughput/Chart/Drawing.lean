import Throughput.Chart.Axis
import Throughput.Chart.Series
import Throughput.Chart.Spec

/-! A chart ready to be drawn: line segments within axis ranges. -/

namespace Throughput

structure Drawing where
  lines : List (List Point)
  x : AxisRange
  y : AxisRange
  chart : ChartSpec
deriving DecidableEq

namespace Drawing

def seconds (lines : List (List Point)) : List Binary64 := lines.flatten.map (·.second)

def rates (lines : List (List Point)) : List Binary64 := lines.flatten.map (·.rate)

def ofSeries (x y : List Binary64) (chart : ChartSpec) : Drawing :=
  let lines := segments x y
  { lines
    x := AxisRange.ofValues (seconds lines)
    y := AxisRange.ofValues (rates lines)
    chart }

def notes (x y : List Binary64) : List LogRecord :=
  let lines := segments x y
  lengthNotes x y ++ AxisRange.notes (seconds lines) ++ AxisRange.notes (rates lines)

end Drawing

end Throughput
