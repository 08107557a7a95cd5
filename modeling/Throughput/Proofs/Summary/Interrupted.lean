import Mathlib.Data.List.DropRight
import Throughput.Proofs.Summary
import Throughput.Proofs.Table.Load

/-!
The peak of rates that are not all numbers. Not-a-number takes the place of every rate before it,
and every rate takes its place, so that only the rates behind the last one count. A table of given
values can have such rates; the table of a loaded log has none.
-/

namespace Throughput

namespace RateSummary

open Binary64

structure IsHighest (points : List Point) (peak : Point) : Prop where
  number : peak.rate ≠ .nan
  highest : ∀ point ∈ points, point.rate ≠ .nan → point.rate.le peak.rate = true
  earliest : ∃ before after, points = before ++ peak :: after ∧
    ∀ point ∈ before, peak.rate.le point.rate = false

variable {points : List Point} {peak point : Point}

theorem nan_le (value : Binary64) : Binary64.nan.le value = false := rfl

theorem le_nan (value : Binary64) : value.le .nan = false := by
  cases value <;> rfl

theorem IsPeak.isHighest (highest : IsPeak points peak)
    (number : ∀ point ∈ points, point.rate ≠ .nan) : IsHighest points peak := by
  have compare (left right : Point) (leftMember : left ∈ points) (rightMember : right ∈ points) :=
    le_iff_units_of_ne_nan (number left leftMember) (number right rightMember)
  refine ⟨number peak highest.mem, ?_, ?_⟩
  · intro point member _
    exact (compare point peak member highest.mem).mpr (highest.highest point member)
  · obtain ⟨before, after, split, below⟩ := highest.earliest
    refine ⟨before, after, split, fun point member => ?_⟩
    have inPoints : point ∈ points := by simp [split, member]
    rw [Bool.eq_false_iff, ne_eq, compare peak point highest.mem inPoints]
    exact Int.not_le.mpr (below point member)

theorem IsHighest.mem (highest : IsHighest points peak) : peak ∈ points := by
  obtain ⟨before, after, rfl, _⟩ := highest.earliest
  simp

/-- The earliest of the highest rates is the first one that no number surpasses. -/
theorem IsHighest.find?_eq (highest : IsHighest points peak) :
    points.find? (fun point => decide (∀ other ∈ points, other.rate ≠ .nan →
      other.rate.le point.rate = true)) = some peak := by
  obtain ⟨before, after, split, below⟩ := highest.earliest
  rw [List.find?_eq_some_iff_append]
  refine ⟨decide_eq_true highest.highest, before, after, split, ?_⟩
  intro point member
  have surpassed := below point member
  rw [Bool.not_eq_true', decide_eq_false_iff_not]
  intro unsurpassed
  rw [unsurpassed peak highest.mem highest.number] at surpassed
  cases surpassed

theorem IsHighest.unique {other : Point} (highest : IsHighest points peak)
    (otherHighest : IsHighest points other) : peak = other :=
  Option.some.inj (highest.find?_eq.symm.trans otherHighest.find?_eq)

/-! The fold over rates that are not all numbers. -/

def Rated (point : Point) : Bool := point.rate ≠ .nan

def lastRun (points : List Point) : List Point := points.rtakeWhile Rated

theorem rated_iff (point : Point) : Rated point = true ↔ point.rate ≠ .nan :=
  decide_eq_true_iff

theorem ne_nan_of_mem_lastRun (member : point ∈ lastRun points) : point.rate ≠ .nan :=
  (rated_iff point).mp (List.mem_rtakeWhile_imp member)

theorem lastRun_eq_self (number : ∀ point ∈ points, point.rate ≠ .nan) : lastRun points = points :=
  List.rtakeWhile_eq_self_iff.mpr fun point member => (rated_iff point).mpr (number point member)

theorem higher_unrated (best : Option Point) (unrated : point.rate = .nan) :
    higher best point = some point := by
  cases best with
  | none => rfl
  | some best => simp [higher, unrated, nan_le]

theorem higher_of_unrated {best : Point} (unrated : best.rate = .nan) (point : Point) :
    higher (some best) point = some point := by
  simp [higher, unrated, le_nan]

theorem unrated_of_getLast? {last : Point} (empty : lastRun points = [])
    (found : points.getLast? = some last) : last.rate = .nan := by
  obtain ⟨before, rfl⟩ := List.getLast?_eq_some_iff.mp found
  by_contra number
  rw [lastRun, List.rtakeWhile_concat_pos _ _ _ ((rated_iff last).mpr number)] at empty
  simp at empty

/-- With no rate behind the last gap, the gap itself is what has been gathered. -/
theorem higher_getLast? (empty : lastRun points = []) (point : Point) :
    higher points.getLast? point = some point := by
  cases found : points.getLast? with
  | none => rfl
  | some last => exact higher_of_unrated (unrated_of_getLast? empty found) point

/-- Only the points behind the last gap count; without them the gap itself is the peak. -/
theorem peakOf_eq (points : List Point) :
    peakOf points = if lastRun points = [] then points.getLast? else peakOf (lastRun points) := by
  induction points using List.reverseRecOn with
  | nil => rfl
  | append_singleton points point ih =>
      rw [peakOf_concat, lastRun, List.rtakeWhile_concat, ← lastRun]
      by_cases rated : point.rate = .nan
      · simp [Rated, rated, higher_unrated _ rated]
      · have kept : Rated point = true := decide_eq_true rated
        rw [if_pos kept, if_neg (by simp), peakOf_concat, ih]
        split
        · rename_i empty
          rw [higher_getLast? empty, empty]
          rfl
        · rfl

theorem exists_peakOf_lastRun (nonempty : lastRun points ≠ []) :
    ∃ peak, peakOf points = some peak ∧ IsHighest (lastRun points) peak := by
  rw [peakOf_eq, if_neg nonempty]
  have number (point : Point) (member : point ∈ lastRun points) : point.rate ≠ .nan :=
    ne_nan_of_mem_lastRun member
  obtain ⟨peak, found⟩ := Option.ne_none_iff_exists'.mp (mt (peakOf_eq_none_iff _).mp nonempty)
  exact ⟨peak, found, (isPeak_peakOf number found).isHighest number⟩

/-- The peak is the earliest of the highest rates when these stand behind the last gap. -/
theorem exists_isHighest_iff (points : List Point) :
    (∃ peak, peakOf points = some peak ∧ IsHighest points peak) ↔
      ∃ peak, IsHighest points peak ∧ IsHighest (lastRun points) peak := by
  constructor
  · rintro ⟨peak, found, highest⟩
    have nonempty : lastRun points ≠ [] := by
      intro empty
      rw [peakOf_eq, if_pos empty] at found
      exact highest.number (unrated_of_getLast? empty found)
    obtain ⟨last, foundLast, highestLast⟩ := exists_peakOf_lastRun nonempty
    rw [found] at foundLast
    obtain rfl := Option.some.inj foundLast
    exact ⟨peak, highest, highestLast⟩
  · rintro ⟨peak, highest, highestLast⟩
    obtain ⟨last, found, isLast⟩ := exists_peakOf_lastRun (List.ne_nil_of_mem highestLast.mem)
    exact ⟨last, found, highestLast.unique isLast ▸ highest⟩

end RateSummary

open RateSummary

theorem RateTable.some_rate_mem {table : RateTable} {point : Point}
    (member : point ∈ table.points) : some point.rate ∈ table.rateMbps := by
  obtain ⟨⟨second, rate⟩, paired, made⟩ := List.mem_filterMap.mp member
  split at made
  · rename_i rate same
    cases same
    cases made
    exact (List.of_mem_zip paired).2
  · cases made

theorem RateTable.rated_of_log {origin : Json.Origin} {input : List UInt8} {samples : SampleTable}
    {table : RateTable} (loaded : SampleTable.ofInput origin input = .ok samples)
    (derived : ofSamples samples = .ok table) :
    ∀ point ∈ table.points, point.rate ≠ .nan := by
  intro point member
  obtain ⟨-, rateBytes⟩ := SampleTable.ofInput_allFinite loaded
  obtain ⟨other, derivedOther, -, converted⟩ := exists_ofSamples samples
  obtain rfl := Except.ok.inj (derived.symm.trans derivedOther)
  have finite := Column.toMebibytes_allFinite rateBytes
  rw [← converted] at finite
  exact Binary64.ne_nan_of_isFinite (finite _ (some_rate_mem member))

/-- The peak of a table with a rate is the earliest of its highest rates exactly when these stand
behind the last rate that is not a number, as they do in every loaded log. Otherwise it is the
earliest of the highest rates behind that one, which itself is the peak when none are. -/
theorem peak_isHighest_iff (table : RateTable) (rated : ∃ point ∈ table.points, point.rate ≠ .nan) :
    ((∃ peak, (RateSummary.ofTable table).peak = some peak ∧ IsHighest table.points peak) ↔
      ∃ peak, IsHighest table.points peak ∧ IsHighest (lastRun table.points) peak) ∧
    (∀ origin input samples, SampleTable.ofInput origin input = .ok samples →
      RateTable.ofSamples samples = .ok table →
        ∃ peak, (RateSummary.ofTable table).peak = some peak ∧ IsHighest table.points peak) ∧
    (lastRun table.points ≠ [] → ∃ peak, (RateSummary.ofTable table).peak = some peak ∧
      IsHighest (lastRun table.points) peak) ∧
    (lastRun table.points = [] →
      ∃ gap, (RateSummary.ofTable table).peak = some gap ∧ gap.rate = .nan) := by
  obtain ⟨point, member, number⟩ := rated
  refine ⟨exists_isHighest_iff table.points, ?_, exists_peakOf_lastRun, ?_⟩
  · intro origin input samples loaded derived
    have whole := lastRun_eq_self (RateTable.rated_of_log loaded derived)
    have nonempty : lastRun table.points ≠ [] := by
      rw [whole]
      exact List.ne_nil_of_mem member
    obtain ⟨peak, found, highest⟩ := exists_peakOf_lastRun nonempty
    exact ⟨peak, found, whole ▸ highest⟩
  · intro empty
    obtain ⟨gap, found⟩ := Option.ne_none_iff_exists'.mp
      (mt List.getLast?_eq_none_iff.mp (List.ne_nil_of_mem member))
    refine ⟨gap, ?_, unrated_of_getLast? empty found⟩
    rw [← found]
    exact (peakOf_eq table.points).trans (if_pos empty)

def interruptedSeconds : List Binary64 := [.ofNat 0, .ofNat 1, .ofNat 2, .ofNat 3]

def interruptedRates : List Binary64 := [.ofNat 5242880, .nan, .infinite true, .ofNat 3145728]

def interruptedSamples : SampleTable :=
  ⟨interruptedSeconds.map some, interruptedRates.map some, by decide +kernel⟩

def interruptedTable : RateTable :=
  { interruptedSamples with
    rateMbps := interruptedSamples.rateBytes.toMebibytes
    sameRateLength := by decide +kernel }

theorem interruptedTable_derived :
    SampleTable.ofValues interruptedSeconds interruptedRates = .ok interruptedSamples ∧
      RateTable.ofSamples interruptedSamples = .ok interruptedTable := ⟨rfl, rfl⟩

theorem interruptedTable_rated : ∃ point ∈ interruptedTable.points, point.rate ≠ .nan :=
  ⟨⟨.ofNat 0, .ofNat 5⟩, by decide +kernel, by decide +kernel⟩

theorem interruptedTable_peak :
    (∃ point ∈ interruptedTable.points, point.rate ≠ .nan) ∧
      ∃ peak, (RateSummary.ofTable interruptedTable).peak = some peak ∧
        IsHighest (lastRun interruptedTable.points) peak := by
  obtain ⟨-, -, behind, -⟩ := peak_isHighest_iff interruptedTable interruptedTable_rated
  exact ⟨interruptedTable_rated, behind (by decide +kernel)⟩

theorem peak_can_miss_highest :
    SampleTable.ofValues interruptedSeconds interruptedRates = .ok interruptedSamples ∧
      RateTable.ofSamples interruptedSamples = .ok interruptedTable ∧
      (∃ point ∈ interruptedTable.points, point.rate ≠ .nan) ∧
      (RateSummary.ofTable interruptedTable).peak = some ⟨.ofNat 3, .ofNat 3⟩ ∧
      ¬∃ peak, (RateSummary.ofTable interruptedTable).peak = some peak ∧
        IsHighest interruptedTable.points peak := by
  obtain ⟨loaded, derived⟩ := interruptedTable_derived
  have last : (RateSummary.ofTable interruptedTable).peak = some ⟨.ofNat 3, .ofNat 3⟩ := by
    decide +kernel
  refine ⟨loaded, derived, interruptedTable_rated, last, ?_⟩
  rintro ⟨peak, found, highest⟩
  obtain rfl := Option.some.inj (found.symm.trans last)
  have surpassed := highest.highest ⟨.ofNat 0, .ofNat 5⟩ (by decide +kernel) (by decide +kernel)
  revert surpassed
  decide +kernel

end Throughput
