import Throughput.Proofs.Binary64.Mebibytes
import Throughput.Proofs.Json.FiniteNumbers
import Throughput.Table.Load

/-!
Loaded tables hold a row for each record, and finite numbers only, before and after the conversion
of the rates.
-/

namespace Throughput

def Column.AllFinite (column : Column) : Prop :=
  ∀ value, some value ∈ column → value.isFinite = true

theorem Column.allFinite_cons_iff {cell : Cell} {rest : Column} :
    AllFinite (cell :: rest) ↔
      (∀ value, cell = some value → value.isFinite = true) ∧ AllFinite rest := by
  constructor
  · intro finite
    exact ⟨fun value held => finite value (by simp [held]),
      fun value member => finite value (List.mem_cons_of_mem cell member)⟩
  · rintro ⟨first, later⟩ value member
    rcases List.mem_cons.mp member with here | there
    · exact first value here.symm
    · exact later value there

theorem Column.AllFinite.of_getElem? {column : Column} {row : Nat} {cell : Cell}
    (finite : column.AllFinite) (found : column[row]? = some cell) :
    ∀ value, cell = some value → value.isFinite = true := by
  rintro value rfl
  exact finite value (List.mem_of_getElem? found)

namespace SampleTable

theorem cellOf_isFinite {column : String} {row : Nat} {record : Json.Object} {value : Binary64}
    (inRange : record.InRange) (read : cellOf column row record = .ok (some value)) :
    value.isFinite = true := by
  unfold cellOf at read
  split at read
  · cases read
  · cases read
  · rename_i number found
    simp only [Except.ok.injEq, Option.some.injEq] at read
    rw [← read]
    have small : number.natAbs < UInt64.size := Json.Object.get?_of_forall inRange found
    exact Binary64.isFinite_ofInt
      (Nat.le_trans (Nat.le_of_lt small) Json.Literal.size_le_wholeLimit)
  · rename_i number found
    cases read
    exact Json.Object.get?_of_forall inRange found
  · cases read

theorem cellsFrom_allFinite {column : String} {row : Nat} {records : List Json.Object}
    {cells : Column} (inRange : ∀ record ∈ records, record.InRange)
    (read : cellsFrom column row records = .ok cells) : cells.AllFinite := by
  induction records generalizing row cells with
  | nil =>
      cases read
      simp [Column.AllFinite]
  | cons record rest ih =>
      obtain ⟨headInRange, restInRange⟩ := List.forall_mem_cons.mp inRange
      obtain ⟨cell, readCell, read⟩ := bind_eq_ok_iff.mp read
      obtain ⟨others, readOthers, read⟩ := bind_eq_ok_iff.mp read
      cases read
      refine Column.allFinite_cons_iff.mpr ⟨?_, ih restInRange readOthers⟩
      rintro value rfl
      exact cellOf_isFinite headInRange readCell

theorem columnOf_allFinite {column : String} {records : List Json.Object} {cells : Column}
    (inRange : ∀ record ∈ records, record.InRange)
    (read : columnOf column records = .ok cells) : cells.AllFinite := by
  unfold columnOf at read
  split at read
  · exact cellsFrom_allFinite inRange read
  · cases read

theorem cellsFrom_length {column : String} {row : Nat} {records : List Json.Object}
    {cells : Column} (read : cellsFrom column row records = .ok cells) :
    cells.length = records.length := by
  induction records generalizing row cells with
  | nil =>
      cases read
      rfl
  | cons record rest ih =>
      obtain ⟨cell, readCell, read⟩ := bind_eq_ok_iff.mp read
      obtain ⟨others, readOthers, read⟩ := bind_eq_ok_iff.mp read
      cases read
      rw [List.length_cons, List.length_cons, ih readOthers]

theorem columnOf_length {column : String} {records : List Json.Object} {cells : Column}
    (read : columnOf column records = .ok cells) : cells.length = records.length := by
  unfold columnOf at read
  split at read
  · exact cellsFrom_length read
  · cases read

theorem ofRecords_length {records : List Json.Object} {table : SampleTable}
    (made : ofRecords records = .ok table) : table.length = records.length := by
  obtain ⟨second, readSecond, made⟩ := bind_eq_ok_iff.mp made
  obtain ⟨rateBytes, readRate, made⟩ := bind_eq_ok_iff.mp made
  have formed := mapError_eq_ok_iff.mp made
  unfold ofColumns at formed
  split at formed
  · cases formed
    exact columnOf_length readSecond
  · cases formed

theorem ofInput_allFinite {origin : Json.Origin} {input : List UInt8} {table : SampleTable}
    (loaded : ofInput origin input = .ok table) :
    table.second.AllFinite ∧ table.rateBytes.AllFinite := by
  obtain ⟨records, read, loaded⟩ := bind_eq_ok_iff.mp loaded
  have inRange := Json.records_inRange (mapError_eq_ok_iff.mp read)
  obtain ⟨second, readSecond, loaded⟩ := bind_eq_ok_iff.mp loaded
  obtain ⟨rateBytes, readRate, loaded⟩ := bind_eq_ok_iff.mp loaded
  have formed := mapError_eq_ok_iff.mp loaded
  unfold ofColumns at formed
  split at formed
  · cases formed
    exact ⟨columnOf_allFinite inRange readSecond, columnOf_allFinite inRange readRate⟩
  · cases formed

end SampleTable

theorem Column.toMebibytes_allFinite {column : Column} (finite : column.AllFinite) :
    column.toMebibytes.AllFinite := by
  intro value member
  obtain ⟨cell, held, converted⟩ := List.mem_map.mp member
  obtain ⟨bytes, rfl, rfl⟩ := Option.map_eq_some_iff.mp converted
  exact Binary64.isFinite_toMebibytes (finite bytes held)

theorem RateTable.exists_ofSamples (samples : SampleTable) :
    ∃ table, ofSamples samples = .ok table ∧ table.toSampleTable = samples ∧
      table.rateMbps = samples.rateBytes.toMebibytes := by
  have sameLength : samples.rateBytes.toMebibytes.length = samples.second.length := by
    simp [Column.toMebibytes, samples.sameLength]
  exact ⟨_, dif_pos sameLength, rfl, rfl⟩

end Throughput
