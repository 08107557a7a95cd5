import Mathlib.Algebra.Order.BigOperators.Group.List
import Mathlib.Data.List.Perm.Basic
import Throughput.Proofs.Binary64.Extremes
import Throughput.Proofs.Binary64.Mebibytes
import Throughput.Proofs.Binary64.Nearest
import Throughput.Proofs.Binary64.Whole
import Throughput.Proofs.Table.Rows

/-!
The mean of whole byte rates. As long as they come to at most 2^53 bytes, every conversion and every
partial sum is a whole number of bytes and exact, so that the mean is rounded only once, when the
sum is divided.
-/

namespace Throughput

open Binary64 RateSummary

/-- One byte, counted in units of a mebibyte. -/
def byteUnits : Nat := Nat.pow 2 1054

theorem byteUnits_bounds : Magnitude.one = byteUnits * 2 ^ 20 ∧
    2 ^ 53 * byteUnits < Magnitude.limit := by
  decide +kernel

theorem aligned_bytes {count : Nat} (small : count ≤ 2 ^ 53) : Aligned (count * byteUnits) := by
  unfold byteUnits
  apply aligned_mul_two_pow small

attribute [local irreducible] Magnitude.limit Magnitude.one byteUnits

structure IsBytes (rate : Binary64) (count : Int) : Prop where
  finite : rate.isFinite = true
  units : rate.units = count * byteUnits

theorem nearestUnits_bytes {count : Int} (small : count.natAbs ≤ 2 ^ 53) {denominator : Nat}
    (positive : 0 < denominator) :
    nearestUnits (count * byteUnits * denominator) denominator = count * byteUnits := by
  have size : (count * byteUnits).natAbs = count.natAbs * byteUnits := by
    rw [Int.natAbs_mul, Int.natAbs_natCast]
  have inside := Nat.lt_of_le_of_lt (Nat.mul_le_mul_right byteUnits small) byteUnits_bounds.2
  exact nearestUnits_of_aligned positive (size ▸ aligned_bytes small) (size ▸ Nat.le_of_lt inside)

theorem isBytes_toMebibytes {bytes : Binary64} {count : Int} (whole : bytes.IsWhole count)
    (small : count.natAbs ≤ 2 ^ 53) : IsBytes bytes.toMebibytes count where
  finite := isFinite_toMebibytes whole.finite
  units := by
    rw [units_toMebibytes whole.finite, whole.units, byteUnits_bounds.1, Nat.cast_mul,
      ← Int.mul_assoc]
    exact nearestUnits_bytes small (by decide)

theorem IsBytes.add {left right : Binary64} {count other : Int} (isLeft : IsBytes left count)
    (isRight : IsBytes right other) (small : (count + other).natAbs ≤ 2 ^ 53) :
    IsBytes (left + right) (count + other) := by
  have total : left.units + right.units = (count + other) * byteUnits := by
    rw [isLeft.units, isRight.units, Int.add_mul]
  have size : ((count + other) * byteUnits).natAbs = (count + other).natAbs * byteUnits := by
    rw [Int.natAbs_mul, Int.natAbs_natCast]
  constructor
  · refine isFinite_add isLeft.finite isRight.finite (aligned_bytes small)
      (Nat.lt_of_le_of_lt (Nat.mul_le_mul_right _ small) byteUnits_bounds.2) ?_
    rw [total, size]
  · have exact := nearestUnits_bytes small Nat.one_pos
    rw [Nat.cast_one, Int.mul_one] at exact
    rw [units_add isLeft.finite isRight.finite, total, exact]

/-- A sum of whole bytes stays exact as long as the sizes come to at most 2^53. -/
theorem IsBytes.foldl {rates : List Binary64} {counts : List Int} {total : Binary64} {count : Int}
    (isTotal : IsBytes total count) (areBytes : List.Forall₂ IsBytes rates counts)
    (bounded : count.natAbs + (counts.map Int.natAbs).sum ≤ 2 ^ 53) :
    IsBytes (rates.foldl (· + ·) total) (count + counts.sum) := by
  induction areBytes generalizing total count with
  | nil => simpa using isTotal
  | cons isRate _ ih =>
      rw [List.map_cons, List.sum_cons] at bounded
      have next := isTotal.add isRate (by omega)
      rw [List.sum_cons, ← Int.add_assoc, List.foldl_cons]
      exact ih next (by omega)

theorem isBytes_sum {rates : List Binary64} {counts : List Int}
    (areBytes : List.Forall₂ IsBytes rates counts)
    (bounded : (counts.map Int.natAbs).sum ≤ 2 ^ 53) : IsBytes (sum rates) counts.sum := by
  have start : IsBytes (-Binary64.zero) 0 := by
    constructor
    · rfl
    · rw [units_neg, Int.zero_mul]
      rfl
  have whole := start.foldl areBytes (by simpa using bounded)
  rwa [Int.zero_add] at whole

theorem isBytes_rates {rates : List Binary64} {counts : List Int}
    (whole : List.Forall₂ IsWhole rates counts) (bounded : (counts.map Int.natAbs).sum ≤ 2 ^ 53) :
    List.Forall₂ IsBytes (rates.map toMebibytes) counts := by
  induction whole with
  | nil => exact .nil
  | cons isWhole _ ih =>
      rw [List.map_cons, List.sum_cons] at bounded
      exact .cons (isBytes_toMebibytes isWhole (by omega)) (ih (by omega))

/-- Only the division by the number of points is rounded. -/
theorem exists_mean {points : List Point} {counts : List Int}
    (areBytes : List.Forall₂ IsBytes (points.map (·.rate)) counts) (nonempty : counts ≠ [])
    (few : counts.length ≤ 2 ^ 53) (bounded : (counts.map Int.natAbs).sum ≤ 2 ^ 53) :
    ∃ mean, meanOf points = some mean ∧ mean.isFinite = true ∧
      mean.units = nearestUnits (counts.sum * byteUnits) counts.length := by
  have length : points.length = counts.length := by simpa using areBytes.length_eq
  have positive := List.length_pos_iff.mpr nonempty
  have inhabited : points ≠ [] := List.length_pos_iff.mp (length ▸ positive)
  have total := isBytes_sum areBytes bounded
  have divisor := isWhole_ofNat few
  have scaled : (ofNat counts.length).units = (counts.length * Magnitude.one : Nat) := by
    rw [divisor.units, Nat.cast_mul]
  refine ⟨_, if_neg (by simpa using inhabited), ?_, ?_⟩
  · rw [length]
    exact isFinite_div total.finite divisor.finite (one_le_units_ofNat positive)
  · rw [length, units_div total.finite divisor.finite (Nat.mul_pos positive Magnitude.one_pos)
      scaled, nearestUnits_mul_right _ positive Magnitude.one_pos, total.units]

section Interval

variable {rates : List Binary64} {counts : List Int} (areBytes : List.Forall₂ IsBytes rates counts)

include areBytes

theorem sum_units_eq : (rates.map Binary64.units).sum = counts.sum * byteUnits := by
  induction areBytes with
  | nil => simp
  | cons isRate _ ih =>
      rw [List.map_cons, List.sum_cons, List.sum_cons, ih, isRate.units, Int.add_mul]

theorem isFinite_of_areBytes : ∀ rate ∈ rates, rate.isFinite = true := by
  induction areBytes with
  | nil => simp
  | cons isRate _ ih => exact List.forall_mem_cons.mpr ⟨isRate.finite, ih⟩

/-- Rounding does not leave the interval of the rates, whose bounds are numbers themselves. -/
theorem mean_within {low high : Binary64} (encloses : Encloses rates low high)
    (nonempty : counts ≠ []) :
    low.units ≤ nearestUnits (counts.sum * byteUnits) counts.length ∧
      nearestUnits (counts.sum * byteUnits) counts.length ≤ high.units := by
  have finite := isFinite_of_areBytes areBytes
  have finiteLow := finite low encloses.low_mem
  have finiteHigh := finite high encloses.high_mem
  have positive := List.length_pos_iff.mpr nonempty
  have above := List.card_nsmul_le_sum (rates.map Binary64.units) low.units
    (by simpa using encloses.low_le)
  have below := List.sum_le_card_nsmul (rates.map Binary64.units) high.units
    (by simpa using encloses.le_high)
  rw [sum_units_eq areBytes, List.length_map, areBytes.length_eq, nsmul_eq_mul] at above below
  constructor
  · exact le_nearestUnits positive (aligned_units finiteLow)
      (Nat.le_of_lt (natAbs_units_lt finiteLow)) (by linarith)
  · exact nearestUnits_le positive (aligned_units finiteHigh)
      (Nat.le_of_lt (natAbs_units_lt finiteHigh)) (by linarith)

end Interval

/-- A mean of bytes is the fraction that it stands for, rounded once. -/
theorem exists_nearest {mean : Binary64} {total : Int} {count : Nat} (positive : 0 < count)
    (finite : mean.isFinite = true)
    (rounded : mean.units = nearestUnits (total * byteUnits) count) :
    ∃ nearest, Nearest total (1048576 * count) nearest ∧ mean.eq nearest = true := by
  have scaled : 0 < 1048576 * count := by omega
  have units := units_round_fraction total scaled
  have same : nearestUnits (total * Magnitude.one) (1048576 * count) = mean.units := by
    rw [rounded, byteUnits_bounds.1, Nat.cast_mul, ← Int.mul_assoc, Nat.mul_comm 1048576 count]
    exact nearestUnits_mul_right _ positive (by decide)
  rw [same] at units
  have finiteNearest := (isFinite_iff_units (round_ne_nan _ _ _)).mpr
    (lt_of_eq_of_lt (congrArg Int.natAbs units) (natAbs_units_lt finite))
  exact ⟨_, nearest_round scaled finiteNearest, (eq_iff_units finite finiteNearest).mpr units.symm⟩

/-- What the mean of a table is, when the valid rates of its log are these whole numbers. -/
theorem exists_mean_of_whole {samples : SampleTable} {table : RateTable} {counts : List Int}
    (derived : RateTable.ofSamples samples = .ok table)
    (whole : List.Forall₂ IsWhole samples.validRates counts) (nonempty : counts ≠ [])
    (few : counts.length ≤ 2 ^ 53) (bounded : (counts.map Int.natAbs).sum ≤ 2 ^ 53) :
    List.Forall₂ IsBytes (table.points.map (·.rate)) counts ∧
      ∃ mean, (RateSummary.ofTable table).mean = some mean ∧ mean.isFinite = true ∧
        mean.units = nearestUnits (counts.sum * byteUnits) counts.length := by
  have areBytes := isBytes_rates whole bounded
  rw [← RateTable.rates_of_ofSamples derived] at areBytes
  exact ⟨areBytes, exists_mean areBytes nonempty few bounded⟩

theorem SampleTable.validRates_perm {samples other : SampleTable}
    (permuted : other.rows.Perm samples.rows) : other.validRates.Perm samples.validRates :=
  permuted.filterMap _

/-- The mean of whole byte rates, of which there are at most 2^53 with sizes of at most 2^53 bytes
together, is the exact fraction rounded once, up to the sign of a zero. The order of the rows has no
influence on it, and it lies between the least and the greatest rate. -/
theorem mean_of_whole_rates {samples : SampleTable} {counts : List Int}
    (whole : List.Forall₂ IsWhole samples.validRates counts) (nonempty : counts ≠ [])
    (few : counts.length ≤ 2 ^ 53) (bounded : (counts.map Int.natAbs).sum ≤ 2 ^ 53) :
    ∃ table mean, RateTable.ofSamples samples = .ok table ∧
      (RateSummary.ofTable table).mean = some mean ∧
      (∃ nearest, Nearest counts.sum (1048576 * counts.length) nearest ∧
        mean.eq nearest = true) ∧
      (∀ other otherTable, other.rows.Perm samples.rows →
        RateTable.ofSamples other = .ok otherTable → ∃ otherMean,
          (RateSummary.ofTable otherTable).mean = some otherMean ∧ otherMean.eq mean = true) ∧
      ∃ low high, Encloses (table.points.map (·.rate)) low high ∧ low.le mean = true ∧
        mean.le high = true := by
  obtain ⟨table, derived, -⟩ := RateTable.exists_ofSamples samples
  obtain ⟨areBytes, mean, found, finite, rounded⟩ :=
    exists_mean_of_whole derived whole nonempty few bounded
  have positive := List.length_pos_iff.mpr nonempty
  refine ⟨table, mean, derived, found, exists_nearest positive finite rounded, ?_, ?_⟩
  · intro other otherTable permuted derivedOther
    obtain ⟨others, wholeOther, permutedCounts⟩ :=
      List.perm_comp_forall₂ (SampleTable.validRates_perm permuted) whole
    have length := permutedCounts.length_eq
    have boundedOther : (others.map Int.natAbs).sum ≤ 2 ^ 53 := by
      rwa [(permutedCounts.map Int.natAbs).sum_eq]
    have nonemptyOther : others ≠ [] := List.length_pos_iff.mp (length ▸ positive)
    obtain ⟨-, otherMean, foundOther, finiteOther, roundedOther⟩ :=
      exists_mean_of_whole derivedOther wholeOther nonemptyOther (length ▸ few) boundedOther
    refine ⟨otherMean, foundOther, (eq_iff_units finiteOther finite).mpr ?_⟩
    rw [roundedOther, rounded, permutedCounts.sum_eq, length]
  · have finiteRates := isFinite_of_areBytes areBytes
    obtain ⟨first, member⟩ := List.exists_mem_of_ne_nil (table.points.map (·.rate))
      (List.length_pos_iff.mp (areBytes.length_eq ▸ positive))
    obtain ⟨low, high, encloses⟩ := exists_encloses member finiteRates
    obtain ⟨above, below⟩ := mean_within areBytes encloses nonempty
    rw [← rounded] at above below
    exact ⟨low, high, encloses, (le_iff_units (finiteRates low encloses.low_mem) finite).mpr above,
      (le_iff_units finite (finiteRates high encloses.high_mem)).mpr below⟩

def wholeRatesLog : String :=
  "[\x7b\"Second\":0,\"RateBytes\":1\x7d,\x7b\"Second\":1,\"RateBytes\":-3\x7d," ++
    "\x7b\"RateBytes\":5\x7d,\x7b\"Second\":3,\"RateBytes\":9007199254740985\x7d]"

def wholeRatesSamples : SampleTable :=
  ⟨[some (ofNat 0), some (ofNat 1), none, some (ofNat 3)],
    [some (ofInt 1), some (ofInt (-3)), some (ofInt 5), some (ofInt 9007199254740985)],
    by decide⟩

theorem wholeRatesLog_mean : SampleTable.ofText wholeRatesLog = .ok wholeRatesSamples ∧
    List.Forall₂ IsWhole wholeRatesSamples.validRates [1, -3, 9007199254740985] ∧
    ∃ table mean nearest, RateTable.ofSamples wholeRatesSamples = .ok table ∧
      (RateSummary.ofTable table).mean = some mean ∧
      Nearest 9007199254740983 (1048576 * 3) nearest ∧ mean.eq nearest = true := by
  have rates : wholeRatesSamples.validRates = [1, -3, 9007199254740985].map ofInt := by
    decide +kernel
  have whole : List.Forall₂ IsWhole wholeRatesSamples.validRates [1, -3, 9007199254740985] := by
    rw [rates]
    exact .cons (isWhole_ofInt (by decide)) (.cons (isWhole_ofInt (by decide))
      (.cons (isWhole_ofInt (by decide)) .nil))
  obtain ⟨table, mean, derived, found, ⟨nearest, isNearest, equal⟩, -⟩ :=
    mean_of_whole_rates whole (by decide) (by decide) (by decide)
  exact ⟨rfl, whole, table, mean, nearest, derived, found, isNearest, equal⟩

end Throughput
