import Throughput.Proofs.Binary64.Mebibytes
import Throughput.Proofs.Binary64.Whole
import Throughput.Proofs.Binary64.Extremes
import Throughput.Proofs.Summary.Interrupted
import Throughput.Proofs.Table.Rows

/-!
The peak of a loaded log is its busiest second. The conversion of the rates moves no other row to
the top, since the largest byte rate is converted without rounding and the smaller ones stay below.
-/

namespace Throughput

open Binary64 RateSummary

attribute [local irreducible] Magnitude.limit Magnitude.one

namespace SampleTable

structure IsLargest (samples : SampleTable) (bytes : Binary64) : Prop where
  held : ∃ second, (some second, some bytes) ∈ samples.rows
  highest : ∀ second other, (some second, some other) ∈ samples.rows → other.le bytes = true

def FirstWith (samples : SampleTable) (second bytes : Binary64) : Prop :=
  ∃ before after, samples.rows = before ++ (some second, some bytes) :: after ∧
    ∀ earlier other, (some earlier, some other) ∈ before → other.eq bytes = false

end SampleTable

variable {samples : SampleTable} {bytes : Binary64}

theorem one_le_of_le_abs (finite : bytes.isFinite = true)
    (large : (ofNat 1).le bytes.abs = true) : Magnitude.one ≤ bytes.units.natAbs := by
  have one := isWhole_ofNat (show 1 ≤ 2 ^ 53 by decide)
  have ordered := (le_iff_units one.finite ((isFinite_abs bytes).trans finite)).mp large
  rw [one.units, units_abs finite, Nat.cast_one, Int.one_mul] at ordered
  omega

theorem SampleTable.exists_isLargest (finite : samples.rateBytes.AllFinite)
    (complete : ∃ second bytes, (some second, some bytes) ∈ samples.rows) :
    ∃ bytes, samples.IsLargest bytes := by
  have finiteRates (held : Binary64) (member : held ∈ samples.validRates) :
      held.isFinite = true := by
    obtain ⟨second, inRows⟩ := mem_validRates_iff.mp member
    exact finite held (mem_of_mem_rows inRows)
  obtain ⟨second, bytes, inRows⟩ := complete
  obtain ⟨low, high, encloses⟩ :=
    exists_encloses (mem_validRates_iff.mpr ⟨second, inRows⟩) finiteRates
  refine ⟨high, mem_validRates_iff.mp encloses.high_mem, fun second other inRows => ?_⟩
  have otherMember := mem_validRates_iff.mpr ⟨second, inRows⟩
  exact (le_iff_units (finiteRates other otherMember) (finiteRates high encloses.high_mem)).mpr
    (encloses.le_high other otherMember)

section Peak

variable {table : RateTable} {peak : Point} (derived : RateTable.ofSamples samples = .ok table)
  (finite : samples.rateBytes.AllFinite) (largest : samples.IsLargest bytes)
  (large : Magnitude.one ≤ bytes.units.natAbs) (highest : IsPeak table.points peak)

include derived finite largest large highest

/-- The highest rate is the converted largest one, because no smaller one is converted to it. -/
theorem eq_largest_of_isPeak {second other : Binary64}
    (inRows : (some second, some other) ∈ samples.rows) (rate : peak.rate = other.toMebibytes) :
    other = bytes := by
  obtain ⟨largestSecond, held⟩ := largest.held
  have finiteBytes := finite bytes (SampleTable.mem_of_mem_rows held)
  have finiteOther := finite other (SampleTable.mem_of_mem_rows inRows)
  have below := (le_iff_units finiteOther finiteBytes).mp (largest.highest second other inRows)
  have shown : Point.mk largestSecond bytes.toMebibytes ∈ table.points := by
    rw [RateTable.points_of_ofSamples derived]
    exact List.mem_filterMap.mpr ⟨_, held, rfl⟩
  have above := highest.highest _ shown
  rw [rate] at above
  have notLess : ¬other.units < bytes.units := fun less =>
    absurd (units_toMebibytes_lt finiteBytes finiteOther large less) (Int.not_lt.mpr above)
  have unit := Magnitude.one_pos
  exact eq_of_units_eq finiteOther finiteBytes (by omega) (by omega)

/-- The peak is the point of the first row with the largest byte rate. -/
theorem firstWith_of_isPeak :
    samples.FirstWith peak.second bytes ∧ peak.rate = bytes.toMebibytes := by
  obtain ⟨before, after, parts, lower⟩ := highest.earliest
  rw [RateTable.points_of_ofSamples derived] at parts
  obtain ⟨front, rest, split, rfl, others⟩ := List.filterMap_eq_append_iff.mp parts
  obtain ⟨gaps, row, behind, rfl, noPoint, converted, -⟩ := List.filterMap_eq_cons_iff.mp others
  obtain ⟨other, rfl, rate⟩ := convertedPoint_eq_some_iff.mp converted
  have inRows : (some peak.second, some other) ∈ samples.rows := by simp [split]
  obtain rfl := eq_largest_of_isPeak derived finite largest large highest inRows rate
  refine ⟨⟨front ++ gaps, behind, by simp [split], ?_⟩, rate⟩
  intro earlier less member
  rw [Bool.eq_false_iff]
  intro equal
  rcases List.mem_append.mp member with inFront | inGaps
  · have lessInRows : (some earlier, some less) ∈ samples.rows := by simp [split, inFront]
    have finiteLess := finite less (SampleTable.mem_of_mem_rows lessInRows)
    have finiteBytes := finite other (SampleTable.mem_of_mem_rows inRows)
    have same := (eq_iff_units finiteLess finiteBytes).mp equal
    have below := lower ⟨earlier, less.toMebibytes⟩ (List.mem_filterMap.mpr ⟨_, inFront, rfl⟩)
    rw [rate, units_toMebibytes finiteLess, units_toMebibytes finiteBytes, same] at below
    exact Int.lt_irrefl _ below
  · have absent := noPoint _ inGaps
    cases absent

end Peak

/-- The peak of a loaded log is the first second with the largest byte rate, when that is at least
one in size: it is converted without rounding, and every other rate stays below it. -/
theorem peak_is_busiest_second {origin : Json.Origin} {input : List UInt8}
    (loaded : SampleTable.ofInput origin input = .ok samples)
    (complete : ∃ second bytes, (some second, some bytes) ∈ samples.rows) :
    ∃ table, RateTable.ofSamples samples = .ok table ∧ (∃ bytes, samples.IsLargest bytes) ∧
      ∀ bytes, samples.IsLargest bytes → (ofNat 1).le bytes.abs = true →
        ∃ second rate, samples.FirstWith second bytes ∧
          (RateSummary.ofTable table).peak = some ⟨second, rate⟩ ∧
          rate * ofNat 1048576 = bytes ∧ rate.units * 1048576 = bytes.units ∧
          ∀ otherSecond other, (some otherSecond, some other) ∈ samples.rows →
            other.eq bytes = false → other.toMebibytes.lt rate = true := by
  obtain ⟨-, finite⟩ := SampleTable.ofInput_allFinite loaded
  obtain ⟨table, derived, -⟩ := RateTable.exists_ofSamples samples
  refine ⟨table, derived, SampleTable.exists_isLargest finite complete, ?_⟩
  intro bytes largest atLeastOne
  obtain ⟨largestSecond, held⟩ := largest.held
  have finiteBytes := finite bytes (SampleTable.mem_of_mem_rows held)
  have large := one_le_of_le_abs finiteBytes atLeastOne
  have exact : 2 ^ 72 ≤ bytes.units.natAbs := by
    have := exactLimit_lt.1
    omega
  have nonempty : table.points ≠ [] := by
    rw [RateTable.points_of_ofSamples derived]
    exact List.ne_nil_of_mem (List.mem_filterMap.mpr ⟨_, held, rfl⟩)
  obtain ⟨peak, found⟩ := Option.ne_none_iff_exists'.mp (mt (peakOf_eq_none_iff _).mp nonempty)
  have highest := isPeak_peakOf (RateTable.rated_of_log loaded derived) found
  obtain ⟨first, rate⟩ := firstWith_of_isPeak derived finite largest large highest
  refine ⟨peak.second, bytes.toMebibytes, first, ?_, toMebibytes_mul finiteBytes exact,
    units_toMebibytes_of_large finiteBytes exact, ?_⟩
  · rw [← rate]
    exact found
  · intro second other inRows different
    have finiteOther := finite other (SampleTable.mem_of_mem_rows inRows)
    have below := (le_iff_units finiteOther finiteBytes).mp (largest.highest second other inRows)
    have apart : other.units ≠ bytes.units := fun same => by
      rw [(eq_iff_units finiteOther finiteBytes).mpr same] at different
      cases different
    exact (lt_iff_units (isFinite_toMebibytes finiteOther) (isFinite_toMebibytes finiteBytes)).mpr
      (units_toMebibytes_lt finiteBytes finiteOther large (by omega))

def busyLog : String :=
  "[\x7b\"Second\":0,\"RateBytes\":9007199254740991\x7d,\x7b\"RateBytes\":9007199254740995\x7d," ++
    "\x7b\"Second\":2,\"RateBytes\":9007199254740992\x7d," ++
    "\x7b\"Second\":3,\"RateBytes\":9007199254740992\x7d,\x7b\"Second\":4\x7d]"

def busySamples : SampleTable :=
  ⟨[some (ofNat 0), none, some (ofNat 2), some (ofNat 3), some (ofNat 4)],
    [some (ofNat 9007199254740991), some (ofNat 9007199254740995), some (ofNat 9007199254740992),
      some (ofNat 9007199254740992), none], rfl⟩

theorem busySamples_isLargest : busySamples.IsLargest (ofNat 9007199254740992) where
  held := ⟨ofNat 2, by decide +kernel⟩
  highest := by
    have highest : ∀ other ∈ busySamples.validRates,
        other.le (ofNat 9007199254740992) = true := by
      decide +kernel
    exact fun second other inRows => highest other (SampleTable.mem_validRates_iff.mpr ⟨_, inRows⟩)

theorem busyLog_peak : SampleTable.ofText busyLog = .ok busySamples ∧
    busySamples.IsLargest (ofNat 9007199254740992) ∧
    ∃ table second rate, RateTable.ofSamples busySamples = .ok table ∧
      busySamples.FirstWith second (ofNat 9007199254740992) ∧
      (RateSummary.ofTable table).peak = some ⟨second, rate⟩ ∧
      rate * ofNat 1048576 = ofNat 9007199254740992 := by
  have loaded : SampleTable.ofText busyLog = .ok busySamples := rfl
  obtain ⟨table, derived, -, peaks⟩ :=
    peak_is_busiest_second loaded ⟨ofNat 2, ofNat 9007199254740992, by decide +kernel⟩
  obtain ⟨second, rate, first, peak, product, -⟩ :=
    peaks _ busySamples_isLargest (by decide +kernel)
  exact ⟨loaded, busySamples_isLargest, table, second, rate, derived, first, peak, product⟩

end Throughput
