import Throughput.Table.Basic
import Throughput.Point

/-! Descriptive statistics of a rate table. -/

namespace Throughput

structure RateSummary where
  /-- Number of rows, gaps included. -/
  samples : Nat
  /-- Number of rows that have both a second and a rate. -/
  validSamples : Nat
  secondRange : Option (Binary64 × Binary64)
  mean : Option Binary64
  /-- Highest rate; the earliest row wins ties. -/
  peak : Option Point
deriving DecidableEq

namespace RateTable

def points (table : RateTable) : List Point :=
  (table.second.zip table.rateMbps).filterMap fun
    | (some second, some rate) => some ⟨second, rate⟩
    | _ => none

end RateTable

namespace RateSummary

/-- Sum from left to right, starting at negative zero, the neutral element of addition. -/
def sum (values : List Binary64) : Binary64 :=
  values.foldl (· + ·) (-Binary64.zero)

def meanOf (points : List Point) : Option Binary64 :=
  if points.isEmpty then none
  else some (sum (points.map (·.rate)) / Binary64.ofNat points.length)

def higher : Option Point → Point → Option Point
  | none, point => some point
  | some best, point => if point.rate.le best.rate then some best else some point

def peakOf (points : List Point) : Option Point :=
  points.foldl higher none

def ofTable (table : RateTable) : RateSummary :=
  let points := table.points
  { samples := table.length
    validSamples := points.length
    secondRange := Binary64.extremes table.second.present
    mean := meanOf points
    peak := peakOf points }

end RateSummary

end Throughput
