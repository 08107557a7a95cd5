import Throughput.Proofs.Table.Load
import Throughput.Summary

/-! The rows of a table, and the points that are left of them when the byte rates are converted. -/

namespace Throughput

def SampleTable.rows (samples : SampleTable) : List (Cell × Cell) :=
  samples.second.zip samples.rateBytes

theorem SampleTable.map_fst_rows (samples : SampleTable) :
    samples.rows.map Prod.fst = samples.second := by
  apply List.map_fst_zip
  rw [samples.sameLength]

def convertedPoint : Cell × Cell → Option Point
  | (some second, some bytes) => some ⟨second, bytes.toMebibytes⟩
  | _ => none

theorem convertedPoint_eq_some_iff {row : Cell × Cell} {point : Point} :
    convertedPoint row = some point ↔
      ∃ bytes, row = (some point.second, some bytes) ∧ point.rate = bytes.toMebibytes := by
  constructor
  · intro converted
    unfold convertedPoint at converted
    split at converted
    · cases converted
      exact ⟨_, rfl, rfl⟩
    · cases converted
  · rintro ⟨bytes, rfl, rate⟩
    rw [convertedPoint, ← rate]

theorem RateTable.points_of_ofSamples {samples : SampleTable} {table : RateTable}
    (derived : ofSamples samples = .ok table) :
    table.points = samples.rows.filterMap convertedPoint := by
  obtain ⟨other, derivedOther, rfl, converted⟩ := exists_ofSamples samples
  obtain rfl := Except.ok.inj (derived.symm.trans derivedOther)
  rw [points, converted, Column.toMebibytes, List.zip_map_right, List.filterMap_map]
  refine List.filterMap_congr fun row _ => ?_
  obtain ⟨second, bytes⟩ := row
  cases second <;> cases bytes <;> rfl

namespace SampleTable

theorem mem_of_mem_rows {samples : SampleTable} {second bytes : Binary64}
    (member : (some second, some bytes) ∈ samples.rows) : some bytes ∈ samples.rateBytes :=
  (List.of_mem_zip member).2

def validRate : Cell × Cell → Option Binary64
  | (some _, some bytes) => some bytes
  | _ => none

def validRates (samples : SampleTable) : List Binary64 := samples.rows.filterMap validRate

theorem mem_validRates_iff {samples : SampleTable} {bytes : Binary64} :
    bytes ∈ samples.validRates ↔ ∃ second, (some second, some bytes) ∈ samples.rows := by
  rw [validRates, List.mem_filterMap]
  constructor
  · rintro ⟨row, member, valid⟩
    unfold validRate at valid
    split at valid
    · cases valid
      exact ⟨_, member⟩
    · cases valid
  · rintro ⟨second, member⟩
    exact ⟨_, member, rfl⟩

end SampleTable

theorem RateTable.rates_of_ofSamples {samples : SampleTable} {table : RateTable}
    (derived : ofSamples samples = .ok table) :
    table.points.map (·.rate) = samples.validRates.map Binary64.toMebibytes := by
  rw [points_of_ofSamples derived, SampleTable.validRates, List.map_filterMap, List.map_filterMap]
  refine List.filterMap_congr fun row _ => ?_
  obtain ⟨second, bytes⟩ := row
  cases second <;> cases bytes <;> rfl

end Throughput
