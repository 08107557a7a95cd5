import Throughput.Proofs.Binary64.Extremes
import Throughput.Proofs.Table.Rows

/-!
The range of the seconds is their span. Gaps and seconds that are not numbers are passed over
wherever they stand, so that the order of the rows does not matter.
-/

namespace Throughput

open Binary64

structure Column.Span (column : Column) (low high : Binary64) : Prop where
  low_mem : some low ∈ column
  high_mem : some high ∈ column
  within : ∀ value, some value ∈ column → value ≠ .nan →
    low.le value = true ∧ value.le high = true

theorem Column.mem_present_iff {column : Column} {value : Binary64} :
    value ∈ column.present ↔ some value ∈ column := by
  simp [present]

theorem Column.present_eq_nil_iff (column : Column) :
    column.present = [] ↔ ∀ cell ∈ column, cell = none := by
  simp [present, List.filterMap_eq_nil_iff]

theorem Column.span_of_spans {column : Column} {low high : Binary64}
    (bounds : Spans column.present low high) : column.Span low high := by
  refine ⟨mem_present_iff.mp bounds.low_mem, mem_present_iff.mp bounds.high_mem, ?_⟩
  intro value member number
  have present := mem_present_iff.mpr member
  exact ⟨bounds.low_le value present number, bounds.le_high value present number⟩

namespace RateTable

variable {table other : RateTable}

theorem secondRange_eq (table : RateTable) :
    (RateSummary.ofTable table).secondRange = extremes table.second.present := rfl

theorem second_perm (shuffled : other.rows.Perm table.rows) : other.second.Perm table.second := by
  rw [← table.map_fst_rows, ← other.map_fst_rows]
  exact shuffled.map Prod.fst

theorem mem_present_of_perm (shuffled : other.rows.Perm table.rows) (value : Binary64) :
    value ∈ table.second.present ↔ value ∈ other.second.present := by
  rw [Column.mem_present_iff, Column.mem_present_iff, (second_perm shuffled).mem_iff]

end RateTable

/-- The range of the seconds is missing when all of them are, and otherwise it is made of the least
and the greatest one. Only seconds that are no numbers at all give bounds that are none, and a
table with the same rows in another order has numerically the same range. -/
theorem secondRange_spans_seconds (table : RateTable) :
    ((RateSummary.ofTable table).secondRange = none ↔ ∀ cell ∈ table.second, cell = none) ∧
    ((∃ cell ∈ table.second, cell ≠ none) →
      (∀ value, some value ∈ table.second → value = .nan) →
        (RateSummary.ofTable table).secondRange = some (.nan, .nan)) ∧
    ((∃ value, some value ∈ table.second ∧ value ≠ .nan) →
      ∃ low high, (RateSummary.ofTable table).secondRange = some (low, high) ∧
        table.second.Span low high ∧
        ∀ other : RateTable, other.rows.Perm table.rows →
          ∃ low' high', (RateSummary.ofTable other).secondRange = some (low', high') ∧
            low.eq low' = true ∧ high.eq high' = true) := by
  refine ⟨?_, ?_, ?_⟩
  · rw [RateTable.secondRange_eq, extremes_eq_none_iff, Column.present_eq_nil_iff]
  · rintro ⟨cell, member, filled⟩ unnumbered
    obtain ⟨value, rfl⟩ := Option.ne_none_iff_exists'.mp filled
    obtain ⟨low, high, found⟩ := exists_extremes (Column.mem_present_iff.mpr member)
    have span := Column.span_of_spans (spans_of_extremes found)
    rw [RateTable.secondRange_eq, found, unnumbered low span.low_mem,
      unnumbered high span.high_mem]
  · rintro ⟨value, member, number⟩
    have present := Column.mem_present_iff.mpr member
    obtain ⟨low, high, found⟩ := exists_extremes present
    have bounds := spans_of_extremes found
    refine ⟨low, high, found, Column.span_of_spans bounds, ?_⟩
    intro other shuffled
    have same := RateTable.mem_present_of_perm shuffled
    obtain ⟨low', high', found'⟩ := exists_extremes ((same value).mp present)
    exact ⟨low', high', found',
      bounds.eq_of_mem_iff (spans_of_extremes found') same ⟨value, present, number⟩⟩

def RateTable.ofCells (second rateBytes : Column) (sameLength : rateBytes.length = second.length) :
    RateTable :=
  { second, rateBytes, sameLength
    rateMbps := rateBytes.toMebibytes
    sameRateLength := by simp [Column.toMebibytes, sameLength] }

def wanderingTable : RateTable :=
  .ofCells [some .nan, some .zero, some (.ofNat 3), some (-.zero), some (.infinite false)]
    [some (.ofNat 1), none, some (.ofNat 2), some .nan, some (.ofNat 4)]
    (by decide +kernel)

def returningTable : RateTable :=
  .ofCells [some (.infinite false), some (-.zero), some .nan, some (.ofNat 3), some .zero]
    [some (.ofNat 4), some .nan, some (.ofNat 1), some (.ofNat 2), none]
    (by decide +kernel)

theorem wanderingTable_shuffled : returningTable.rows.Perm wanderingTable.rows := by
  decide +kernel

theorem wanderingTable_span :
    (∃ value, some value ∈ wanderingTable.second ∧ value ≠ .nan) ∧
      returningTable.rows.Perm wanderingTable.rows ∧
      ∃ low high low' high',
        (RateSummary.ofTable wanderingTable).secondRange = some (low, high) ∧
        (RateSummary.ofTable returningTable).secondRange = some (low', high') ∧
        wanderingTable.second.Span low high ∧ low.eq low' = true ∧ high.eq high' = true ∧
        low ≠ low' := by
  have numbered : ∃ value, some value ∈ wanderingTable.second ∧ value ≠ .nan :=
    ⟨.zero, by decide +kernel, by decide +kernel⟩
  obtain ⟨low, high, found, span, again⟩ := (secondRange_spans_seconds wanderingTable).2.2 numbered
  obtain ⟨low', high', found', sameLow, sameHigh⟩ := again returningTable wanderingTable_shuffled
  have range : (RateSummary.ofTable wanderingTable).secondRange =
      some (.zero, .infinite false) := by
    decide +kernel
  have range' : (RateSummary.ofTable returningTable).secondRange =
      some (-.zero, .infinite false) := by
    decide +kernel
  refine ⟨numbered, wanderingTable_shuffled, low, high, low', high', found, found', span, sameLow,
    sameHigh, ?_⟩
  rw [range] at found
  rw [range'] at found'
  cases found
  cases found'
  decide +kernel

end Throughput
