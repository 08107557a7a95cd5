import Throughput.Binary64.Text
import Throughput.Log

/-! Axis ranges: the data with a small margin, always finite and with a finite span. -/

namespace Throughput

structure AxisRange where
  start : Binary64
  stop : Binary64
deriving DecidableEq

namespace AxisRange

def isFinite (range : AxisRange) : Bool :=
  range.start.isFinite && range.stop.isFinite && (range.stop - range.start).isFinite

def extent (values : List Binary64) : Option (Binary64 × Binary64) :=
  Binary64.extremes (values.filter Binary64.isFinite)

/-- Fraction of the data that is added on each side. -/
def marginFraction : Binary64 := Binary64.ofRatio 5 100

/-- Largest bound of an axis whose data span overflows. -/
def clampLimit : Binary64 := Binary64.greatest / Binary64.ofNat 4

/-- A single value widens by one, or by a fraction of itself once one is too little to matter. -/
def margin (low high : Binary64) : Binary64 :=
  if low.eq high then (Binary64.ofNat 1).max (low.abs * marginFraction)
  else high * marginFraction - low * marginFraction

def padded (low high : Binary64) : AxisRange :=
  ⟨low - margin low high, high + margin low high⟩

/-- The padded range, with the bare bound on a side where the margin overflows. -/
def repaired (low high : Binary64) : AxisRange :=
  let range := padded low high
  ⟨if range.start.isFinite then range.start else low,
    if range.stop.isFinite then range.stop else high⟩

/-- The widest drawable range around the data; none when the data span itself overflows. -/
def fit? (low high : Binary64) : Option AxisRange :=
  let range := repaired low high
  if (padded low high).isFinite then some (padded low high)
  else if range.start.lt range.stop && range.isFinite then some range
  else if low.lt high && (AxisRange.mk low high).isFinite then some ⟨low, high⟩
  else none

def clamp (low high : Binary64) : AxisRange :=
  ⟨low.max (-clampLimit), high.min clampLimit⟩

/-- The range of an axis; without finite data it runs from zero to one. -/
def ofValues (values : List Binary64) : AxisRange :=
  match extent values with
  | none => ⟨.zero, .ofNat 1⟩
  | some (low, high) => (fit? low high).getD (clamp low high)

def notes (values : List Binary64) : List LogRecord :=
  match extent values with
  | none => []
  | some (low, high) =>
    if (fit? low high).isSome then []
    else
      [⟨.debug, .layout,
        "Axis span " ++ low.text .scientific ++ ".." ++ high.text .scientific
          ++ " overflows, clamping to ±" ++ clampLimit.text .scientific⟩]

def text (range : AxisRange) : String :=
  range.start.text .pointed ++ ".." ++ range.stop.text .pointed

end AxisRange

end Throughput
