/-! What a chart says besides its data: its texts and its size. -/

namespace Throughput

structure ImageSize where
  width : UInt32
  height : UInt32
deriving DecidableEq

namespace ImageSize

def standard : ImageSize := ⟨640, 480⟩

end ImageSize

structure ChartSpec where
  title : String
  xLabel : String
  yLabel : String
  size : ImageSize
deriving DecidableEq

namespace ChartSpec

def ofTitle (title : String) (size : Option ImageSize) : ChartSpec :=
  ⟨title, "Second", "Rate MB/s", size.getD .standard⟩

end ChartSpec

end Throughput
