import Throughput.Table.Column
import Throughput.Table.Schema

/-! The sample table of a loaded log, and the rate table derived from it. -/

namespace Throughput

inductive ShapeError
  | lengthsDiffer
deriving DecidableEq

def ShapeError.message : ShapeError → String
  | .lengthsDiffer => "Invalid argument error: all columns in a record batch must have the same length"

structure SampleTable where
  second : Column
  rateBytes : Column
  sameLength : rateBytes.length = second.length
deriving DecidableEq

namespace SampleTable

def ofColumns (second rateBytes : Column) : Except ShapeError SampleTable :=
  if sameLength : rateBytes.length = second.length then .ok ⟨second, rateBytes, sameLength⟩
  else .error .lengthsDiffer

def length (table : SampleTable) : Nat := table.second.length

def isEmpty (table : SampleTable) : Bool := table.length = 0

end SampleTable

structure RateTable extends SampleTable where
  rateMbps : Column
  sameRateLength : rateMbps.length = second.length
deriving DecidableEq

namespace RateTable

def withRate (samples : SampleTable) (rateMbps : Column) : Except ShapeError RateTable :=
  if sameRateLength : rateMbps.length = samples.second.length then
    .ok { samples with rateMbps, sameRateLength }
  else .error .lengthsDiffer

def ofSamples (samples : SampleTable) : Except ShapeError RateTable :=
  withRate samples samples.rateBytes.toMebibytes

def length (table : RateTable) : Nat := table.toSampleTable.length

def series (table : RateTable) : List Binary64 × List Binary64 :=
  (table.second.nanFilled, table.rateMbps.nanFilled)

end RateTable

end Throughput
