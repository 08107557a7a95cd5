import Mathlib.Data.List.Forall2
import Throughput.Proofs.Binary64.Nearest
import Throughput.Proofs.Table.Load

/-!
The columns that a list of records gives. Only what the records hold under the key of a column
decides about it: a cell for each record, or the first error.
-/

namespace Throughput

open Json (Object Value)

def Json.Value.isNumeric : Value → Bool
  | .integer _ | .float _ => true
  | _ => false

namespace SampleTable

inductive Shows : Option Value → Cell → Prop
  | absent : Shows none none
  | null : Shows (some .null) none
  | integer {value : Int} {number : Binary64} (nearest : number.Nearest value 1) :
      Shows (some (.integer value)) (some number)
  | float (number : Binary64) : Shows (some (.float number)) (some number)

inductive Gives (column : String) (fields : List (Option Value)) :
    Except LoadError Column → Prop
  | missing (absent : ∀ field ∈ fields, field = none) :
      Gives column fields (.error (.columnNotFound column))
  | nonNumeric {before after : List (Option Value)} {value : Value} {cells : Column}
      (split : fields = before ++ some value :: after) (shown : List.Forall₂ Shows before cells)
      (notNull : value ≠ .null) (notNumeric : value.isNumeric = false) :
      Gives column fields (.error (.nonNumeric column before.length value.text))
  | cells {cells : Column} (present : ∃ value, some value ∈ fields)
      (shown : List.Forall₂ Shows fields cells) : Gives column fields (.ok cells)

inductive Loads (seconds rates : List (Option Value)) : Except LoadError SampleTable → Prop
  | second {error : LoadError} (failed : Gives "Second" seconds (.error error)) :
      Loads seconds rates (.error error)
  | rateBytes {cells : Column} {error : LoadError} (read : Gives "Second" seconds (.ok cells))
      (failed : Gives "RateBytes" rates (.error error)) : Loads seconds rates (.error error)
  | table {table : SampleTable} (second : Gives "Second" seconds (.ok table.second))
      (rateBytes : Gives "RateBytes" rates (.ok table.rateBytes)) :
      Loads seconds rates (.ok table)

def Complete (fields : List (Option Value)) : Prop :=
  (∃ value, some value ∈ fields) ∧
    ∀ value, some value ∈ fields → value = .null ∨ value.isNumeric = true

theorem Gives.complete_iff {column : String} {fields : List (Option Value)}
    {result : Except LoadError Column} (gives : Gives column fields result) :
    Complete fields ↔ ∃ cells, result = .ok cells := by
  cases gives with
  | missing absent =>
      refine iff_of_false ?_ nofun
      rintro ⟨⟨value, held⟩, -⟩
      cases absent _ held
  | @nonNumeric before after value cells split shown notNull notNumeric =>
      refine iff_of_false ?_ nofun
      rintro ⟨-, each⟩
      rcases each value (by simp [split]) with null | numeric
      · exact notNull null
      · simp [notNumeric] at numeric
  | cells present shown =>
      have each : ∀ field ∈ fields, ∀ value, field = some value →
          value = .null ∨ value.isNumeric = true := by
        refine ((List.forall₂_and_left _ _).mp (shown.imp fun field cell shows => ⟨?_, shows⟩)).1
        rintro value rfl
        cases shows with
        | null => exact .inl rfl
        | integer | float => exact .inr rfl
      exact iff_of_true ⟨present, fun value held => each _ held value rfl⟩ ⟨_, rfl⟩

theorem Loads.complete_iff {seconds rates : List (Option Value)}
    {result : Except LoadError SampleTable} (loads : Loads seconds rates result) :
    Complete seconds ∧ Complete rates ↔ ∃ table, result = .ok table := by
  cases loads with
  | second failed =>
      refine iff_of_false ?_ nofun
      rintro ⟨complete, -⟩
      obtain ⟨cells, same⟩ := failed.complete_iff.mp complete
      cases same
  | rateBytes read failed =>
      refine iff_of_false ?_ nofun
      rintro ⟨-, complete⟩
      obtain ⟨cells, same⟩ := failed.complete_iff.mp complete
      cases same
  | table second rateBytes =>
      exact iff_of_true ⟨second.complete_iff.mpr ⟨_, rfl⟩, rateBytes.complete_iff.mpr ⟨_, rfl⟩⟩
        ⟨_, rfl⟩

theorem cellOf_cases (column : String) {record : Object} (inRange : record.InRange) (row : Nat) :
    (∃ cell, Shows (record.get? column) cell ∧ cellOf column row record = .ok cell) ∨
      ∃ value, record.get? column = some value ∧ value ≠ .null ∧ value.isNumeric = false ∧
        cellOf column row record = .error (.nonNumeric column row value.text) := by
  cases found : record.get? column with
  | none => exact .inl ⟨none, .absent, by simp [cellOf, found]⟩
  | some value =>
      have held : value.InRange := Object.get?_of_forall inRange found
      cases value with
      | null => exact .inl ⟨none, .null, by simp [cellOf, found]⟩
      | integer value =>
          have small : value.natAbs ≤ Binary64.wholeLimit :=
            Nat.le_trans (Nat.le_of_lt held) Json.Literal.size_le_wholeLimit
          exact .inl ⟨_, .integer (Binary64.nearest_ofInt small), by simp [cellOf, found]⟩
      | float number => exact .inl ⟨_, .float number, by simp [cellOf, found]⟩
      | boolean _ | string _ | array _ | object _ =>
          exact .inr ⟨_, rfl, nofun, rfl, by simp [cellOf, found]⟩

theorem cellsFrom_cases (column : String) {records : List Object}
    (inRange : ∀ record ∈ records, record.InRange) (row : Nat) :
    (∃ cells, List.Forall₂ Shows (records.map (·.get? column)) cells ∧
        cellsFrom column row records = .ok cells) ∨
      ∃ before value after cells, records.map (·.get? column) = before ++ some value :: after ∧
        List.Forall₂ Shows before cells ∧ value ≠ .null ∧ value.isNumeric = false ∧
        cellsFrom column row records =
          .error (.nonNumeric column (row + before.length) value.text) := by
  induction records generalizing row with
  | nil => exact .inl ⟨[], .nil, rfl⟩
  | cons record rest ih =>
      obtain ⟨headInRange, restInRange⟩ := List.forall_mem_cons.mp inRange
      rcases cellOf_cases column headInRange row with ⟨cell, shown, read⟩ |
        ⟨value, found, notNull, notNumeric, failed⟩
      · rcases ih restInRange (row + 1) with ⟨cells, shownRest, readRest⟩ |
          ⟨before, value, after, cells, split, shownBefore, notNull, notNumeric, failed⟩
        · exact .inl ⟨cell :: cells, .cons shown shownRest, by
            simp [cellsFrom, read, readRest, bind, Except.bind, pure, Except.pure]⟩
        · refine .inr ⟨record.get? column :: before, value, after, cell :: cells, ?_,
            .cons shown shownBefore, notNull, notNumeric, ?_⟩
          · rw [List.map_cons, split, List.cons_append]
          · simp only [cellsFrom, read, failed, bind, Except.bind, List.length_cons]
            rw [Nat.add_right_comm, Nat.add_assoc]
      · refine .inr ⟨[], value, rest.map (·.get? column), [], ?_, .nil, notNull, notNumeric, ?_⟩
        · rw [List.map_cons, found, List.nil_append]
        · simp [cellsFrom, failed, bind, Except.bind]

theorem columnOf_gives {column : String} {records : List Object}
    (inRange : ∀ record ∈ records, record.InRange) :
    Gives column (records.map (·.get? column)) (columnOf column records) := by
  unfold columnOf
  split
  · rename_i present
    obtain ⟨record, member, held⟩ := List.any_eq_true.mp present
    obtain ⟨value, found⟩ := Option.isSome_iff_exists.mp held
    rcases cellsFrom_cases column inRange 0 with ⟨cells, shown, read⟩ |
      ⟨before, value, after, cells, split, shown, notNull, notNumeric, failed⟩
    · rw [read]
      exact .cells ⟨value, List.mem_map.mpr ⟨record, member, found⟩⟩ shown
    · rw [failed, Nat.zero_add]
      exact .nonNumeric split shown notNull notNumeric
  · rename_i missing
    refine .missing fun field member => ?_
    obtain ⟨record, listed, rfl⟩ := List.mem_map.mp member
    rw [Bool.not_eq_true, List.any_eq_false] at missing
    exact Option.not_isSome_iff_eq_none.mp (missing record listed)

theorem ofRecords_loads {records : List Object} (inRange : ∀ record ∈ records, record.InRange) :
    Loads (records.map (·.get? "Second")) (records.map (·.get? "RateBytes"))
      (ofRecords records) := by
  have seconds : Gives "Second" _ _ := columnOf_gives inRange
  have rates : Gives "RateBytes" _ _ := columnOf_gives inRange
  change Loads _ _ ((columnOf "Second" records) >>= fun second => _)
  cases readSecond : columnOf "Second" records with
  | error error =>
      rw [readSecond] at seconds
      exact .second seconds
  | ok second =>
      rw [readSecond] at seconds
      change Loads _ _ ((columnOf "RateBytes" records) >>= fun rateBytes => _)
      cases readRate : columnOf "RateBytes" records with
      | error error =>
          rw [readRate] at rates
          exact .rateBytes seconds rates
      | ok rateBytes =>
          rw [readRate] at rates
          have sameLength : rateBytes.length = second.length :=
            (columnOf_length readRate).trans (columnOf_length readSecond).symm
          have formed : ofColumns second rateBytes = .ok ⟨second, rateBytes, sameLength⟩ :=
            dif_pos sameLength
          change Loads _ _ ((ofColumns second rateBytes).mapError .shape)
          rw [formed]
          exact .table seconds rates

/-! Nothing else in the records has an influence. -/

section Congruence

variable {records others : List Object}

theorem cellsFrom_congr {column : String}
    (same : others.map (·.get? column) = records.map (·.get? column)) (row : Nat) :
    cellsFrom column row others = cellsFrom column row records := by
  induction records generalizing others row with
  | nil =>
      obtain rfl := List.map_eq_nil_iff.mp same
      rfl
  | cons record rest ih =>
      obtain ⟨other, more, rfl, sameHead, sameRest⟩ := List.map_eq_cons_iff.mp same
      have head : cellOf column row other = cellOf column row record := by
        unfold cellOf
        rw [sameHead]
      rw [cellsFrom, cellsFrom, head, ih sameRest]

theorem columnOf_congr {column : String}
    (same : others.map (·.get? column) = records.map (·.get? column)) :
    columnOf column others = columnOf column records := by
  have present (objects : List Object) :
      objects.any (·.contains column) = (objects.map (·.get? column)).any Option.isSome :=
    List.any_map.symm
  unfold columnOf
  rw [present, present, same, cellsFrom_congr same]

theorem ofRecords_congr
    (sameSecond : others.map (·.get? "Second") = records.map (·.get? "Second"))
    (sameRate : others.map (·.get? "RateBytes") = records.map (·.get? "RateBytes")) :
    ofRecords others = ofRecords records := by
  have second : columnOf Field.second.name others = _ := columnOf_congr sameSecond
  have rateBytes : columnOf Field.rateBytes.name others = _ := columnOf_congr sameRate
  rw [ofRecords, ofRecords, second, rateBytes]

end Congruence

end SampleTable

end Throughput
