import Throughput.Chart.Axis
import Throughput.Proofs.Binary64.Extremes

/-!
Axis ranges can always be drawn: both bounds are finite, the span between them is finite, and the
start stands below the end.

The bounds of the data are compared with the sixteenth part of the limit. A margin is at most that
much for a single value, so it moves only one side out of range, and it is at least the spacing at
the value, so it is never lost to rounding.
-/

namespace Throughput.AxisRange

open Binary64

attribute [local irreducible] Magnitude.limit Magnitude.one

structure Drawable (range : AxisRange) : Prop where
  start_isFinite : range.start.isFinite = true
  stop_isFinite : range.stop.isFinite = true
  span_isFinite : (range.stop - range.start).isFinite = true
  ordered : range.start.lt range.stop = true

theorem isFinite_iff (range : AxisRange) :
    range.isFinite = true ↔ range.start.isFinite = true ∧ range.stop.isFinite = true ∧
      (range.stop - range.start).isFinite = true := by
  simp only [isFinite, Bool.and_eq_true, and_assoc]

theorem Drawable.of_isFinite {range : AxisRange} (finite : range.isFinite = true)
    (ordered : range.start.lt range.stop = true) : range.Drawable := by
  obtain ⟨start, stop, span⟩ := (isFinite_iff range).mp finite
  exact ⟨start, stop, span, ordered⟩

def portion : Nat := 2 ^ 2094

theorem limit_eq_portions : Magnitude.limit = 16 * portion := by
  decide +kernel

theorem one_le_portion : Magnitude.one ≤ portion := by
  decide +kernel

theorem aligned_portions {count : Nat} (small : count ≤ 2 ^ 53) : Aligned (count * portion) := by
  unfold portion
  exact aligned_mul_two_pow small _

attribute [local irreducible] portion

/-! The share of a value that its margin is made of. -/

theorem isFinite_marginFraction : marginFraction.isFinite = true := by
  decide +kernel

theorem marginFraction_bounds :
    (Magnitude.one : Int) ≤ 32 * marginFraction.units ∧
      16 * marginFraction.units ≤ Magnitude.one := by
  decide +kernel

theorem marginFraction_nonneg : 0 ≤ marginFraction.units := by
  have := marginFraction_bounds
  omega

def share (value : Binary64) : Binary64 := value * marginFraction

theorem units_share {value : Binary64} (finite : value.isFinite = true) :
    (share value).units =
      nearestUnits (value.units * marginFraction.units) Magnitude.one :=
  units_mul finite isFinite_marginFraction

theorem natAbs_units_share_le {value : Binary64} (finite : value.isFinite = true) :
    (share value).units.natAbs ≤ portion := by
  have small := natAbs_units_lt finite
  rw [limit_eq_portions] at small
  rw [units_share finite]
  apply natAbs_nearestUnits_le Magnitude.one_pos
  · simpa using aligned_portions (show 1 ≤ 2 ^ 53 by decide)
  · rw [limit_eq_portions]
    omega
  · rw [Int.natAbs_mul]
    have factor : 16 * marginFraction.units.natAbs ≤ Magnitude.one := by
      have := marginFraction_bounds
      omega
    refine Nat.le_of_mul_le_mul_left ?_ (show 0 < 16 by decide)
    calc 16 * (value.units.natAbs * marginFraction.units.natAbs)
        = value.units.natAbs * (16 * marginFraction.units.natAbs) := by ring
      _ ≤ 16 * portion * Magnitude.one := Nat.mul_le_mul (Nat.le_of_lt small) factor
      _ = 16 * (portion * Magnitude.one) := by ring

theorem isFinite_share {value : Binary64} (finite : value.isFinite = true) :
    (share value).isFinite = true := by
  have number : share value ≠ .nan := mul_ne_nan finite isFinite_marginFraction
  rw [isFinite_iff_units number]
  have := natAbs_units_share_le finite
  have := limit_eq_portions
  have := Magnitude.limit_pos
  omega

theorem units_share_mono {low high : Binary64} (finiteLow : low.isFinite = true)
    (finiteHigh : high.isFinite = true) (ordered : low.units ≤ high.units) :
    (share low).units ≤ (share high).units := by
  rw [units_share finiteLow, units_share finiteHigh]
  apply nearestUnits_mono Magnitude.one_pos Magnitude.one_pos
  exact Int.mul_le_mul_of_nonneg_right
    (Int.mul_le_mul_of_nonneg_right ordered marginFraction_nonneg) (Int.natCast_nonneg _)

theorem spacing_le_share {value : Binary64} (finite : value.isFinite = true)
    (positive : 0 ≤ value.units) (large : 52 ≤ value.units.natAbs.log2) :
    spacing value.units.natAbs ≤ (share value).units := by
  have nonzero : value.units.natAbs ≠ 0 := by
    intro zero
    rw [zero] at large
    simp at large
  have steps : 2 ^ 52 * spacing value.units.natAbs ≤ value.units.natAbs := by
    rw [two_pow_mul_spacing large]
    exact Nat.log2_self_le nonzero
  rw [units_share finite]
  apply le_nearestUnits Magnitude.one_pos (by simpa using aligned_spacing _)
  · have := natAbs_units_lt finite
    simp only [Int.natAbs_natCast]
    omega
  · obtain ⟨lower, _⟩ := marginFraction_bounds
    calc (spacing value.units.natAbs : Int) * Magnitude.one
        ≤ spacing value.units.natAbs * (32 * marginFraction.units) :=
          Int.mul_le_mul_of_nonneg_left lower (Int.natCast_nonneg _)
      _ = 32 * spacing value.units.natAbs * marginFraction.units := by ring
      _ ≤ value.units * marginFraction.units :=
          Int.mul_le_mul_of_nonneg_right (by omega) marginFraction_nonneg

/-! The margin. -/

structure Bounds (low high : Binary64) : Prop where
  finiteLow : low.isFinite = true
  finiteHigh : high.isFinite = true
  ordered : low.units ≤ high.units

theorem isFinite_ofNat_one : (Binary64.ofNat 1).isFinite = true := by
  decide +kernel

theorem units_ofNat_one : (Binary64.ofNat 1).units = Magnitude.one := by
  decide +kernel

variable {low high : Binary64}

theorem margin_of_single (bounds : Bounds low high) (single : low.units = high.units) :
    margin low high = (Binary64.ofNat 1).max (share low.abs) :=
  if_pos ((eq_iff_units bounds.finiteLow bounds.finiteHigh).mpr single)

theorem margin_of_spread (bounds : Bounds low high) (spread : low.units < high.units) :
    margin low high = share high - share low := by
  refine if_neg (mt (eq_iff_units bounds.finiteLow bounds.finiteHigh).mp ?_)
  omega

theorem isFinite_share_abs (bounds : Bounds low high) : (share low.abs).isFinite = true :=
  isFinite_share ((isFinite_abs low).trans bounds.finiteLow)

theorem units_margin_of_single (bounds : Bounds low high) (single : low.units = high.units) :
    (margin low high).units = max (Magnitude.one : Int) (share low.abs).units := by
  rw [margin_of_single bounds single,
    units_max isFinite_ofNat_one (isFinite_share_abs bounds), units_ofNat_one]

theorem margin_bounds (bounds : Bounds low high) :
    (margin low high).isFinite = true ∧ 0 ≤ (margin low high).units ∧
      (margin low high).units ≤ 2 * portion := by
  rcases Int.lt_or_eq_of_le bounds.ordered with spread | single
  · have finiteLow := isFinite_share bounds.finiteLow
    have finiteHigh := isFinite_share bounds.finiteHigh
    have smallLow := natAbs_units_share_le bounds.finiteLow
    have smallHigh := natAbs_units_share_le bounds.finiteHigh
    have aligned := aligned_portions (show 2 ≤ 2 ^ 53 by decide)
    have below : 2 * portion < Magnitude.limit := by
      have := limit_eq_portions
      have := Magnitude.limit_pos
      omega
    have nonnegative := units_share_mono bounds.finiteLow bounds.finiteHigh bounds.ordered
    rw [margin_of_spread bounds spread, units_sub finiteHigh finiteLow]
    refine ⟨isFinite_sub finiteHigh finiteLow aligned below (by omega),
      nearestUnits_nonneg 1 (by omega), ?_⟩
    have rounded : (nearestUnits ((share high).units - (share low).units) 1).natAbs ≤ 2 * portion :=
      natAbs_nearestUnits_le Nat.one_pos aligned (Nat.le_of_lt below) (by omega)
    omega
  · have small := natAbs_units_share_le ((isFinite_abs low).trans bounds.finiteLow)
    have := one_le_portion
    refine ⟨?_, ?_, ?_⟩
    · rw [margin_of_single bounds single]
      exact isFinite_max isFinite_ofNat_one (isFinite_share_abs bounds)
    all_goals
      rw [units_margin_of_single bounds single]
      omega

theorem spacing_le_margin (bounds : Bounds low high) (single : low.units = high.units) :
    spacing low.units.natAbs ≤ (margin low high).units := by
  rw [units_margin_of_single bounds single]
  have positive := Magnitude.one_pos
  by_cases large : 52 ≤ low.units.natAbs.log2
  · have size := units_abs bounds.finiteLow
    have enough := spacing_le_share ((isFinite_abs low).trans bounds.finiteLow) (by omega)
      (by rw [size]; exact large)
    rw [size, Int.natAbs_natCast] at enough
    omega
  · rw [spacing_eq_one (Nat.not_le.mp large)]
    omega

/-! The padded range. -/

theorem units_padded_start (bounds : Bounds low high) :
    (padded low high).start.units = nearestUnits (low.units - (margin low high).units) 1 :=
  units_sub bounds.finiteLow (margin_bounds bounds).1

theorem units_padded_stop (bounds : Bounds low high) :
    (padded low high).stop.units = nearestUnits (high.units + (margin low high).units) 1 :=
  units_add bounds.finiteHigh (margin_bounds bounds).1

theorem padded_start_le (bounds : Bounds low high) :
    (padded low high).start.units ≤ low.units := by
  have := (margin_bounds bounds).2.1
  rw [units_padded_start bounds]
  exact nearestUnits_le Nat.one_pos (aligned_units bounds.finiteLow)
    (Nat.le_of_lt (natAbs_units_lt bounds.finiteLow)) (by omega)

theorem le_padded_stop (bounds : Bounds low high) :
    high.units ≤ (padded low high).stop.units := by
  have := (margin_bounds bounds).2.1
  rw [units_padded_stop bounds]
  exact le_nearestUnits Nat.one_pos (aligned_units bounds.finiteHigh)
    (Nat.le_of_lt (natAbs_units_lt bounds.finiteHigh)) (by omega)

theorem padded_start_lt (bounds : Bounds low high) (single : low.units = high.units) :
    (padded low high).start.units < low.units := by
  have enough := spacing_le_margin bounds single
  rw [units_padded_start bounds]
  exact nearestUnits_sub_lt (aligned_units bounds.finiteLow) (natAbs_units_lt bounds.finiteLow)
    enough

theorem lt_padded_stop (bounds : Bounds low high) (single : low.units = high.units) :
    high.units < (padded low high).stop.units := by
  have enough := spacing_le_margin bounds single
  rw [units_padded_stop bounds]
  rw [single] at enough
  exact lt_nearestUnits_add (aligned_units bounds.finiteHigh)
    (natAbs_units_lt bounds.finiteHigh) enough

theorem padded_ordered (bounds : Bounds low high) :
    (padded low high).start.units < (padded low high).stop.units := by
  have below := padded_start_le bounds
  have above := le_padded_stop bounds
  rcases Int.lt_or_eq_of_le bounds.ordered with spread | single
  · omega
  · have := padded_start_lt bounds single
    omega

/-! The repaired range. -/

structure Reaching (low high : Binary64) (range : AxisRange) : Prop where
  start_isFinite : range.start.isFinite = true
  stop_isFinite : range.stop.isFinite = true
  start_le : range.start.units ≤ low.units
  le_stop : high.units ≤ range.stop.units

theorem repaired_reaching (bounds : Bounds low high) : Reaching low high (repaired low high) := by
  constructor
  · unfold repaired
    dsimp only
    split
    · assumption
    · exact bounds.finiteLow
  · unfold repaired
    dsimp only
    split
    · assumption
    · exact bounds.finiteHigh
  · unfold repaired
    dsimp only
    split
    · exact padded_start_le bounds
    · exact Int.le_refl _
  · unfold repaired
    dsimp only
    split
    · exact le_padded_stop bounds
    · exact Int.le_refl _

theorem isFinite_padded_start (bounds : Bounds low high) (nonnegative : 0 ≤ low.units) :
    (padded low high).start.isFinite = true := by
  obtain ⟨finite, above, small⟩ := margin_bounds bounds
  have limit := limit_eq_portions
  have := Magnitude.limit_pos
  rcases Int.le_total (margin low high).units low.units with inside | outside
  · exact isFinite_sub bounds.finiteLow finite (aligned_units bounds.finiteLow)
      (natAbs_units_lt bounds.finiteLow) (by omega)
  · exact isFinite_sub bounds.finiteLow finite (aligned_portions (show 2 ≤ 2 ^ 53 by decide))
      (by omega) (by omega)

theorem isFinite_padded_stop (bounds : Bounds low high) (nonpositive : high.units ≤ 0) :
    (padded low high).stop.isFinite = true := by
  obtain ⟨finite, above, small⟩ := margin_bounds bounds
  have limit := limit_eq_portions
  have := Magnitude.limit_pos
  rcases Int.le_total (margin low high).units (-high.units) with inside | outside
  · exact isFinite_add bounds.finiteHigh finite (aligned_units bounds.finiteHigh)
      (natAbs_units_lt bounds.finiteHigh) (by omega)
  · exact isFinite_add bounds.finiteHigh finite (aligned_portions (show 2 ≤ 2 ^ 53 by decide))
      (by omega) (by omega)

theorem repaired_ordered (bounds : Bounds low high) (single : low.units = high.units) :
    (repaired low high).start.units < (repaired low high).stop.units := by
  have reaching := repaired_reaching bounds
  have below := padded_start_lt bounds single
  have above := lt_padded_stop bounds single
  rcases Int.le_total 0 low.units with nonnegative | nonpositive
  · have kept : (repaired low high).start = (padded low high).start :=
      if_pos (isFinite_padded_start bounds nonnegative)
    have := reaching.le_stop
    rw [kept]
    omega
  · have kept : (repaired low high).stop = (padded low high).stop :=
      if_pos (isFinite_padded_stop bounds (by omega))
    have := reaching.start_le
    rw [kept]
    omega

theorem le_repaired_start (bounds : Bounds low high) (bound : Int)
    (aligned : Aligned bound.natAbs) (within : bound.natAbs ≤ Magnitude.limit)
    (beyond : bound ≤ low.units - (margin low high).units) :
    bound ≤ (repaired low high).start.units := by
  have nonnegative := (margin_bounds bounds).2.1
  unfold repaired
  dsimp only
  split
  · rw [units_padded_start bounds]
    exact le_nearestUnits Nat.one_pos aligned within (by omega)
  · omega

theorem repaired_stop_le (bounds : Bounds low high) (bound : Int)
    (aligned : Aligned bound.natAbs) (within : bound.natAbs ≤ Magnitude.limit)
    (beyond : high.units + (margin low high).units ≤ bound) :
    (repaired low high).stop.units ≤ bound := by
  have nonnegative := (margin_bounds bounds).2.1
  unfold repaired
  dsimp only
  split
  · rw [units_padded_stop bounds]
    exact nearestUnits_le Nat.one_pos aligned within (by omega)
  · omega

theorem repaired_span (bounds : Bounds low high) (single : low.units = high.units) :
    ((repaired low high).stop - (repaired low high).start).isFinite = true := by
  obtain ⟨startFinite, stopFinite, start_le, le_stop⟩ := repaired_reaching bounds
  obtain ⟨_, above, small⟩ := margin_bounds bounds
  have ordered := repaired_ordered bounds single
  have limit := limit_eq_portions
  have := Magnitude.limit_pos
  rcases lt_or_ge low.units (4 * portion) with notHigh | veryHigh
  · rcases lt_or_ge (-(4 * portion : Int)) low.units with notLow | veryLow
    · have six := aligned_portions (show 6 ≤ 2 ^ 53 by decide)
      have start := le_repaired_start bounds (-(6 * portion : Nat))
        (by rw [Int.natAbs_neg, Int.natAbs_natCast]; exact six) (by omega) (by omega)
      have stop := repaired_stop_le bounds (6 * portion : Nat)
        (by rw [Int.natAbs_natCast]; exact six) (by omega) (by omega)
      exact isFinite_sub stopFinite startFinite (aligned_portions (show 12 ≤ 2 ^ 53 by decide))
        (by omega) (by omega)
    · have stop := repaired_stop_le bounds 0 aligned_zero (by simp) (by omega)
      exact isFinite_sub stopFinite startFinite (aligned_units startFinite)
        (natAbs_units_lt startFinite) (by omega)
  · have start := le_repaired_start bounds 0 aligned_zero (by simp) (by omega)
    exact isFinite_sub stopFinite startFinite (aligned_units stopFinite)
      (natAbs_units_lt stopFinite) (by omega)

/-! The exits. -/

theorem fit?_drawable (bounds : Bounds low high) {range : AxisRange}
    (fits : fit? low high = some range) : range.Drawable := by
  unfold fit? at fits
  dsimp only at fits
  split at fits
  · rename_i finite
    cases fits
    obtain ⟨start, stop, span⟩ := (isFinite_iff _).mp finite
    exact ⟨start, stop, span, (lt_iff_units start stop).mpr (padded_ordered bounds)⟩
  · split at fits
    · rename_i checked
      cases fits
      obtain ⟨ordered, finite⟩ := (Bool.and_eq_true _ _).mp checked
      exact Drawable.of_isFinite finite ordered
    · split at fits
      · rename_i checked
        cases fits
        obtain ⟨ordered, finite⟩ := (Bool.and_eq_true _ _).mp checked
        exact Drawable.of_isFinite finite ordered
      · cases fits

theorem span_of_fit?_eq_none (bounds : Bounds low high) (overflows : fit? low high = none) :
    low.units < high.units ∧ ¬(high - low).isFinite = true := by
  unfold fit? at overflows
  dsimp only at overflows
  split at overflows
  · cases overflows
  · split at overflows
    · cases overflows
    · rename_i unrepaired
      split at overflows
      · cases overflows
      · rename_i overflowing
        have reaching := repaired_reaching bounds
        have spread : low.units < high.units := by
          rcases Int.lt_or_eq_of_le bounds.ordered with spread | single
          · exact spread
          · refine absurd ?_ unrepaired
            rw [Bool.and_eq_true, isFinite_iff]
            refine ⟨?_, reaching.start_isFinite, reaching.stop_isFinite,
              repaired_span bounds single⟩
            exact (lt_iff_units reaching.start_isFinite reaching.stop_isFinite).mpr
              (repaired_ordered bounds single)
        refine ⟨spread, fun span => overflowing ?_⟩
        rw [Bool.and_eq_true, isFinite_iff]
        exact ⟨(lt_iff_units bounds.finiteLow bounds.finiteHigh).mpr spread,
          bounds.finiteLow, bounds.finiteHigh, span⟩

theorem signs_of_overflow (bounds : Bounds low high) (overflows : ¬(high - low).isFinite = true) :
    low.units < 0 ∧ 0 < high.units := by
  have ordered := bounds.ordered
  constructor
  · by_contra nonnegative
    exact overflows (isFinite_sub bounds.finiteHigh bounds.finiteLow
      (aligned_units bounds.finiteHigh) (natAbs_units_lt bounds.finiteHigh) (by omega))
  · by_contra nonpositive
    exact overflows (isFinite_sub bounds.finiteHigh bounds.finiteLow
      (aligned_units bounds.finiteLow) (natAbs_units_lt bounds.finiteLow) (by omega))

theorem isFinite_clampLimit : clampLimit.isFinite = true := by
  decide +kernel

theorem clampLimit_bounds : 0 < clampLimit.units ∧ clampLimit.units ≤ 4 * portion := by
  decide +kernel

theorem clamp_start (finiteLow : low.isFinite = true) (high : Binary64) :
    (clamp low high).start.isFinite = true ∧
      (clamp low high).start.units = max low.units (-clampLimit.units) := by
  have finiteLower : (-clampLimit).isFinite = true :=
    (isFinite_neg clampLimit).trans isFinite_clampLimit
  rw [← units_neg]
  exact ⟨isFinite_max finiteLow finiteLower, units_max finiteLow finiteLower⟩

theorem clamp_stop (low : Binary64) (finiteHigh : high.isFinite = true) :
    (clamp low high).stop.isFinite = true ∧
      (clamp low high).stop.units = min high.units clampLimit.units :=
  ⟨isFinite_min finiteHigh isFinite_clampLimit, units_min finiteHigh isFinite_clampLimit⟩

theorem clamp_drawable (bounds : Bounds low high) (negative : low.units < 0)
    (positive : 0 < high.units) : (clamp low high).Drawable := by
  obtain ⟨startFinite, start⟩ := clamp_start bounds.finiteLow high
  obtain ⟨stopFinite, stop⟩ := clamp_stop low bounds.finiteHigh
  obtain ⟨above, small⟩ := clampLimit_bounds
  have limit := limit_eq_portions
  have := Magnitude.limit_pos
  refine ⟨startFinite, stopFinite, ?_, (lt_iff_units startFinite stopFinite).mpr (by omega)⟩
  exact isFinite_sub stopFinite startFinite (aligned_portions (show 8 ≤ 2 ^ 53 by decide))
    (by omega) (by omega)

theorem extent_bounds {values : List Binary64} (found : extent values = some (low, high)) :
    Bounds low high := by
  have finite (value : Binary64) (member : value ∈ values.filter Binary64.isFinite) :
      value.isFinite = true := (List.mem_filter.mp member).2
  have encloses := extremes_encloses finite found
  exact ⟨finite low encloses.low_mem, finite high encloses.high_mem,
    encloses.low_le high encloses.high_mem⟩

theorem unit_drawable : (AxisRange.mk .zero (.ofNat 1)).Drawable := by
  constructor <;> decide +kernel

/-- Whatever the values are, the range of their axis can be drawn. -/
theorem ofValues_drawable (values : List Binary64) : (ofValues values).Drawable := by
  unfold ofValues
  cases found : extent values with
  | none => exact unit_drawable
  | some pair =>
      obtain ⟨low, high⟩ := pair
      have bounds := extent_bounds found
      dsimp only
      cases fits : fit? low high with
      | some range => exact fit?_drawable bounds fits
      | none =>
          obtain ⟨_, overflows⟩ := span_of_fit?_eq_none bounds fits
          obtain ⟨negative, positive⟩ := signs_of_overflow bounds overflows
          exact clamp_drawable bounds negative positive

end Throughput.AxisRange
