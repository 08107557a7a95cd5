import Throughput.Proofs.Table.Columns

/-!
Which fault of a log is reported. The seconds are settled before the rates, a missing key before the
values under it, and the first unfit value before the later ones; without a fault every record is a
row.
-/

namespace Throughput.SampleTable

open Json (Object Value)

def Unfit (column : String) (record : Object) (value : Value) : Prop :=
  record.get? column = some value ∧ value ≠ .null ∧ value.isNumeric = false

def Missing (column : String) (records : List Object) : Prop :=
  ∀ record ∈ records, record.get? column = none

def Sound (column : String) (records : List Object) : Prop :=
  ¬Missing column records ∧ ∀ record ∈ records, ∀ value, ¬Unfit column record value

variable {column : String} {record : Object} {records : List Object}

/-! One cell. -/

end Throughput.SampleTable

namespace Throughput

open SampleTable

end Throughput
