import Throughput.Point
import Throughput.Log

/-! Preparation of a plotted series: equal lengths, and runs of finite points. -/

namespace Throughput

/-- The points of both coordinate lists, as many as the shorter one has. -/
def seriesPoints (x y : List Binary64) : List Point := x.zipWith Point.mk y

def lengthNotes (x y : List Binary64) : List LogRecord :=
  if x.length = y.length then []
  else
    [⟨.debug, .layout,
      s!"Series lengths differ ({x.length} vs {y.length}), plotting the first " ++
        s!"{min x.length y.length} points"⟩]

/-- The maximal runs of finite points; `run` is the one being collected, last point first. -/
def runs : List Point → List Point → List (List Point)
  | run, [] => if run.isEmpty then [] else [run.reverse]
  | run, point :: rest =>
    if point.isFinite then runs (point :: run) rest
    else if run.isEmpty then runs [] rest
    else run.reverse :: runs [] rest

def segments (x y : List Binary64) : List (List Point) := runs [] (seriesPoints x y)

end Throughput
