import Throughput.Proofs.Chart.Series
import Throughput.Proofs.Summary
import Throughput.Proofs.Table.Load

/-!
The chart and the summary of a log tell of the same rows. The summary leaves the gaps out of the
table, the chart turns them into not-a-number first and cuts its lines wherever a point is not
finite. Both see the same points because no loaded number is infinite or not-a-number.
-/

namespace Throughput

theorem isFinite_getD_nan {cell : Cell}
    (finite : ∀ value, cell = some value → value.isFinite = true) :
    (cell.getD .nan).isFinite = cell.isSome := by
  cases cell with
  | none => rfl
  | some value => exact finite value rfl

theorem isFinite_filled {cell rateCell : Cell}
    (finite : ∀ value, cell = some value → value.isFinite = true)
    (rateFinite : ∀ value, rateCell = some value → value.isFinite = true) :
    (Point.mk (cell.getD .nan) (rateCell.getD .nan)).isFinite =
      (cell.isSome && rateCell.isSome) := by
  rw [Point.isFinite, isFinite_getD_nan finite, isFinite_getD_nan rateFinite]

/-- Leaving gaps out gives the same points as filling them and dropping what is not finite. -/
theorem filterMap_zip_eq_filter {second rate : Column} (secondFinite : second.AllFinite)
    (rateFinite : rate.AllFinite) :
    ((second.zip rate).filterMap fun
      | (some second, some rate) => some (Point.mk second rate)
      | _ => none) = (seriesPoints second.nanFilled rate.nanFilled).filter Point.isFinite := by
  induction second generalizing rate with
  | nil => rfl
  | cons cell rest ih =>
      cases rate with
      | nil => rfl
      | cons rateCell rateRest =>
          obtain ⟨cellFinite, restFinite⟩ := Column.allFinite_cons_iff.mp secondFinite
          obtain ⟨rateCellFinite, rateRestFinite⟩ := Column.allFinite_cons_iff.mp rateFinite
          have later := ih restFinite rateRestFinite
          have filled := isFinite_filled cellFinite rateCellFinite
          simp only [seriesPoints, Column.nanFilled, List.map_cons, List.zipWith_cons_cons,
            List.zip_cons_cons, List.filter_cons, filled] at later ⊢
          cases cell with
          | none => simpa using later
          | some second =>
              cases rateCell with
              | none => simpa using later
              | some rate => simpa using later

section KeptRows

variable {keep : Nat → Bool} {count place row next : Nat}

theorem kept_lt_of_lt {later : Nat}
    (here : ((List.range count).filter keep)[place]? = some row)
    (there : ((List.range count).filter keep)[later]? = some next) (before : place < later) :
    row < next := by
  have ordered : ((List.range count).filter keep).Pairwise (· < ·) :=
    List.pairwise_lt_range.filter _
  obtain ⟨hereBound, rfl⟩ := List.getElem?_eq_some_iff.mp here
  obtain ⟨thereBound, rfl⟩ := List.getElem?_eq_some_iff.mp there
  exact List.pairwise_iff_getElem.mp ordered place later hereBound thereBound before

theorem not_kept_between {between : Nat}
    (here : ((List.range count).filter keep)[place]? = some row)
    (beside : ((List.range count).filter keep)[place + 1]? = some next)
    (above : row < between) (below : between < next) : keep between = false := by
  rw [Bool.eq_false_iff]
  intro kept
  have inRange : between < count := by
    have nextMember := List.mem_of_getElem? beside
    have := List.mem_range.mp (List.mem_filter.mp nextMember).1
    omega
  have member : between ∈ (List.range count).filter keep :=
    List.mem_filter.mpr ⟨List.mem_range.mpr inRange, kept⟩
  obtain ⟨index, found⟩ := List.getElem?_of_mem member
  have afterHere : ¬index < place := fun before => by
    have := kept_lt_of_lt found here before
    omega
  have beforeBeside : ¬place + 1 < index := fun after => by
    have := kept_lt_of_lt beside found after
    omega
  rcases (by omega : index = place ∨ index = place + 1) with rfl | rfl
  · have := Option.some.inj (found.symm.trans here)
    omega
  · have := Option.some.inj (found.symm.trans beside)
    omega

theorem follows_filter_iff
    (here : ((List.range count).filter keep)[place]? = some row)
    (beside : ((List.range count).filter keep)[place + 1]? = some next) :
    Follows ((List.range count).filter keep) place ↔
      ∀ between, row < between → between < next → keep between = true := by
  have ascending := kept_lt_of_lt here beside (Nat.lt_succ_self place)
  unfold Follows
  rw [here, beside]
  constructor
  · rintro ⟨found, first, second⟩ between above below
    cases first
    cases second
    omega
  · intro complete
    refine ⟨row, rfl, ?_⟩
    rcases Nat.lt_or_eq_of_le ascending with apart | follows
    · have kept := complete (row + 1) (Nat.lt_succ_self row) apart
      rw [not_kept_between here beside (Nat.lt_succ_self row) apart] at kept
      cases kept
    · rw [← follows]

end KeptRows

namespace RateTable

def isComplete (table : RateTable) (row : Nat) : Bool :=
  (table.second[row]?.join).isSome && (table.rateBytes[row]?.join).isSome

def completeRows (table : RateTable) : List Nat :=
  (List.range table.length).filter table.isComplete

def pointAt? (table : RateTable) (row : Nat) : Option Point := do
  return ⟨← table.second[row]?.join, ← table.rateMbps[row]?.join⟩

def lines (table : RateTable) : List (List Point) :=
  segments table.series.1 table.series.2

structure Finite (table : RateTable) : Prop where
  second : table.second.AllFinite
  rateBytes : table.rateBytes.AllFinite
  converted : table.rateMbps = table.rateBytes.toMebibytes

theorem Finite.rateMbps {table : RateTable} (finite : table.Finite) :
    table.rateMbps.AllFinite := by
  rw [finite.converted]
  exact Column.toMebibytes_allFinite finite.rateBytes

theorem length_seriesPoints (table : RateTable) :
    (seriesPoints table.series.1 table.series.2).length = table.length := by
  simp [seriesPoints, series, Column.nanFilled, table.sameRateLength, length, SampleTable.length]

theorem Finite.seriesPoints_getElem? {table : RateTable} (finite : table.Finite) {row : Nat}
    {point : Point} (found : (seriesPoints table.series.1 table.series.2)[row]? = some point) :
    table.isComplete row = point.isFinite ∧
      (point.isFinite = true → table.pointAt? row = some point) := by
  simp only [seriesPoints, series, Column.nanFilled, List.getElem?_zipWith_eq_some,
    List.getElem?_map, Option.map_eq_some_iff] at found
  obtain ⟨_, _, ⟨cell, foundCell, rfl⟩, ⟨rateCell, foundRate, rfl⟩, rfl⟩ := found
  have filled := isFinite_filled (finite.second.of_getElem? foundCell)
    (finite.rateMbps.of_getElem? foundRate)
  have foundBytes := foundRate
  rw [finite.converted, Column.toMebibytes, List.getElem?_map, Option.map_eq_some_iff] at foundBytes
  obtain ⟨bytes, foundBytes, rfl⟩ := foundBytes
  rw [filled]
  constructor
  · simp [isComplete, foundCell, foundBytes]
  · intro present
    obtain ⟨second, rfl⟩ := Option.isSome_iff_exists.mp (Bool.and_eq_true_iff.mp present).1
    obtain ⟨rate, held⟩ := Option.isSome_iff_exists.mp (Bool.and_eq_true_iff.mp present).2
    simp [pointAt?, foundCell, foundRate, held]

theorem Finite.points_eq_flatten_lines {table : RateTable} (finite : table.Finite) :
    table.points = table.lines.flatten := by
  rw [lines, segments, runs_flatten]
  exact filterMap_zip_eq_filter finite.second finite.rateMbps

theorem isFinite_of_mem_lines {table : RateTable} {point : Point}
    (member : point ∈ table.lines.flatten) : point.rate.isFinite = true := by
  rw [lines, segments, runs_flatten] at member
  have finite : point.isFinite = true := (List.mem_filter.mp member).2
  exact (Bool.and_eq_true_iff.mp finite).2

theorem Finite.map_some_lines {table : RateTable} (finite : table.Finite) :
    table.lines.flatten.map some = table.completeRows.map table.pointAt? := by
  rw [lines, segments, runs_flatten, completeRows, ← table.length_seriesPoints,
    List.range_eq_range']
  refine map_some_filter_isFinite _ _ _ 0 fun row point found => ?_
  rw [Nat.zero_add]
  exact finite.seriesPoints_getElem? found

theorem Finite.together_lines_iff {table : RateTable} (finite : table.Finite)
    {place row next : Nat} (here : table.completeRows[place]? = some row)
    (beside : table.completeRows[place + 1]? = some next) :
    Together table.lines place ↔
      ∀ between, row < between → between < next → table.isComplete between = true := by
  have rows : runRows table.isComplete 0 0 (seriesPoints table.series.1 table.series.2).length =
      table.completeRows := by
    rw [table.length_seriesPoints, completeRows, List.range_eq_range']
    rfl
  rw [← follows_filter_iff here beside, ← completeRows, ← rows]
  refine together_runs_iff table.isComplete _ [] 0 place fun row point found => ?_
  rw [List.length_nil, Nat.zero_add]
  exact (finite.seriesPoints_getElem? found).1

theorem lines_eq_nil_iff (table : RateTable) : table.lines = [] ↔ table.lines.flatten = [] := by
  constructor
  · intro empty
    rw [empty]
    rfl
  · intro empty
    rw [List.flatten_eq_nil_iff] at empty
    exact List.eq_nil_iff_forall_not_mem.mpr fun segment member =>
      ne_nil_of_mem_runs member (empty segment member)

end RateTable

structure Agreement (table : RateTable) (lines : List (List Point)) (summary : RateSummary) :
    Prop where
  shown : lines.flatten.map some = table.completeRows.map table.pointAt?
  cut : ∀ place row next, table.completeRows[place]? = some row →
    table.completeRows[place + 1]? = some next →
      (Together lines place ↔
        ∀ between, row < between → between < next → table.isComplete between = true)
  counted : summary.validSamples = (lines.map List.length).sum
  unpeaked : summary.peak = none ↔ lines = []
  peak : summary.peak =
    lines.flatten.find? fun point => lines.flatten.all fun other => other.rate.le point.rate

theorem RateTable.Finite.agreement {table : RateTable} (finite : table.Finite) :
    Agreement table table.lines (.ofTable table) where
  shown := finite.map_some_lines
  cut := fun _ _ _ here beside => finite.together_lines_iff here beside
  counted := by
    rw [← List.length_flatten, ← finite.points_eq_flatten_lines]
    rfl
  unpeaked := by
    rw [table.lines_eq_nil_iff, ← finite.points_eq_flatten_lines]
    exact RateSummary.peakOf_eq_none_iff table.points
  peak := by
    rw [← RateSummary.peakOf_eq_find? fun _ => isFinite_of_mem_lines,
      ← finite.points_eq_flatten_lines]
    rfl

/-- Whatever log is loaded, its rates can be derived, and its chart shows what its summary counts. -/
theorem chart_agrees_with_summary (text : String) {samples : SampleTable}
    (loaded : SampleTable.ofText text = .ok samples) :
    ∃ table, RateTable.ofSamples samples = .ok table ∧ table.toSampleTable = samples ∧
      Agreement table (segments table.series.1 table.series.2) (.ofTable table) := by
  obtain ⟨second, rateBytes⟩ := SampleTable.ofInput_allFinite loaded
  obtain ⟨table, derived, same, converted⟩ := RateTable.exists_ofSamples samples
  have finite : table.Finite := by
    subst same
    exact ⟨second, rateBytes, converted⟩
  exact ⟨table, derived, same, finite.agreement⟩

def gappedLog : String :=
  "[\x7b\"Second\":0,\"RateBytes\":2097152\x7d,\x7b\"Second\":1,\"RateBytes\":null\x7d," ++
    "\x7b\"Second\":2,\"RateBytes\":1048576\x7d,\x7b\"Second\":3,\"RateBytes\":2097152\x7d]"

theorem gappedLog_agrees : ∃ samples table, SampleTable.ofText gappedLog = .ok samples ∧
    RateTable.ofSamples samples = .ok table ∧
      Agreement table (segments table.series.1 table.series.2) (.ofTable table) := by
  obtain ⟨table, derived, _, agreement⟩ := chart_agrees_with_summary gappedLog rfl
  exact ⟨_, table, rfl, derived, agreement⟩

end Throughput
