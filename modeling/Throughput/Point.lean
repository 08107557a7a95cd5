import Throughput.Binary64.Basic

/-! Points of a throughput chart. -/

namespace Throughput

structure Point where
  second : Binary64
  rate : Binary64
deriving DecidableEq

namespace Point

def isFinite (point : Point) : Bool := point.second.isFinite && point.rate.isFinite

end Point

end Throughput
