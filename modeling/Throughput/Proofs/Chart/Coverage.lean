import Throughput.Proofs.Chart.Axis

/-!
Axis ranges cover the data whenever that is possible. A range reaches as far as the data on both
sides unless the span of the data itself overflows, and then it is the clamped one.

A range that reaches around the data has at least its span, so an overflowing span leaves none of
the earlier exits open.
-/

namespace Throughput.AxisRange

open Binary64

attribute [local irreducible] Magnitude.limit Magnitude.one

structure IsExtent (values : List Binary64) (low high : Binary64) : Prop where
  low_mem : low ∈ values
  high_mem : high ∈ values
  low_isFinite : low.isFinite = true
  high_isFinite : high.isFinite = true
  low_le : ∀ value ∈ values, value.isFinite = true → low.le value = true
  le_high : ∀ value ∈ values, value.isFinite = true → value.le high = true

variable {low high : Binary64}

/-! What the ranges in front of the clamped one reach. -/

theorem padded_reaching (bounds : Bounds low high) (finite : (padded low high).isFinite = true) :
    Reaching low high (padded low high) := by
  obtain ⟨start, stop, _⟩ := (isFinite_iff _).mp finite
  exact ⟨start, stop, padded_start_le bounds, le_padded_stop bounds⟩

theorem fit?_reaching (bounds : Bounds low high) {range : AxisRange}
    (fits : fit? low high = some range) : Reaching low high range := by
  unfold fit? at fits
  dsimp only at fits
  split at fits
  · rename_i finite
    cases fits
    exact padded_reaching bounds finite
  · split at fits
    · cases fits
      exact repaired_reaching bounds
    · split at fits
      · cases fits
        exact ⟨bounds.finiteLow, bounds.finiteHigh, Int.le_refl _, Int.le_refl _⟩
      · cases fits

/-- What reaches around the data has at least its span. -/
theorem Reaching.isFinite_sub {range : AxisRange} (reaching : Reaching low high range)
    (bounds : Bounds low high) (span : (range.stop - range.start).isFinite = true) :
    (high - low).isFinite = true := by
  obtain ⟨startFinite, stopFinite, start_le, le_stop⟩ := reaching
  have ordered := bounds.ordered
  have wider : nearestUnits (high.units - low.units) 1 ≤
      nearestUnits (range.stop.units - range.start.units) 1 :=
    nearestUnits_mono Nat.one_pos Nat.one_pos (by omega)
  have nonnegative : 0 ≤ nearestUnits (high.units - low.units) 1 :=
    nearestUnits_nonneg 1 (by omega)
  rw [isFinite_sub_iff stopFinite startFinite] at span
  rw [isFinite_sub_iff bounds.finiteHigh bounds.finiteLow]
  omega

theorem fit?_eq_none_iff (bounds : Bounds low high) :
    fit? low high = none ↔ (high - low).isFinite = false := by
  constructor
  · intro overflows
    exact Bool.eq_false_iff.mpr (span_of_fit?_eq_none bounds overflows).2
  · intro overflows
    by_contra fits
    obtain ⟨range, found⟩ := Option.ne_none_iff_exists'.mp fits
    have drawable := fit?_drawable bounds found
    have span := (fit?_reaching bounds found).isFinite_sub bounds drawable.span_isFinite
    rw [overflows] at span
    cases span

/-! A single value. -/

def padding (value : Binary64) : Binary64 :=
  (Binary64.ofNat 1).max (value.abs * marginFraction)

theorem margin_eq_padding (bounds : Bounds low high) (single : low.units = high.units) :
    margin low high = padding low :=
  margin_of_single bounds single

theorem fit?_of_single (bounds : Bounds low high) (single : low.units = high.units) :
    fit? low high = some (repaired low high) := by
  have reaching := repaired_reaching bounds
  have ordered := (lt_iff_units reaching.start_isFinite reaching.stop_isFinite).mpr
    (repaired_ordered bounds single)
  have finite : (repaired low high).isFinite = true := (isFinite_iff _).mpr
    ⟨reaching.start_isFinite, reaching.stop_isFinite, repaired_span bounds single⟩
  unfold fit?
  dsimp only
  split
  · rename_i inRange
    obtain ⟨start, stop, _⟩ := (isFinite_iff _).mp inRange
    simp [repaired, start, stop]
  · simp [ordered, finite]

theorem repaired_start_lt (bounds : Bounds low high) (single : low.units = high.units)
    (fits : (low - padding low).isFinite = true) :
    (repaired low high).start.units < low.units := by
  rw [← margin_eq_padding bounds single] at fits
  have kept : (repaired low high).start = (padded low high).start := if_pos fits
  rw [kept]
  exact padded_start_lt bounds single

theorem lt_repaired_stop (bounds : Bounds low high) (single : low.units = high.units)
    (fits : (high + padding low).isFinite = true) :
    high.units < (repaired low high).stop.units := by
  rw [← margin_eq_padding bounds single] at fits
  have kept : (repaired low high).stop = (padded low high).stop := if_pos fits
  rw [kept]
  exact lt_padded_stop bounds single

/-! The extent that a range is made for. -/

theorem IsExtent.exists_extent {values : List Binary64} (extent : IsExtent values low high) :
    ∃ least greatest, AxisRange.extent values = some (least, greatest) ∧ Bounds least greatest ∧
      least.units = low.units ∧ greatest.units = high.units := by
  have finite (held : Binary64) (member : held ∈ values.filter Binary64.isFinite) :
      held.isFinite = true := (List.mem_filter.mp member).2
  have lowMember : low ∈ values.filter Binary64.isFinite :=
    List.mem_filter.mpr ⟨extent.low_mem, extent.low_isFinite⟩
  have highMember : high ∈ values.filter Binary64.isFinite :=
    List.mem_filter.mpr ⟨extent.high_mem, extent.high_isFinite⟩
  obtain ⟨least, greatest, found⟩ := exists_extremes lowMember
  have encloses := extremes_encloses finite found
  have bounds : Bounds least greatest := extent_bounds found
  refine ⟨least, greatest, found, bounds, ?_, ?_⟩
  · have below := encloses.low_le low lowMember
    have above := (le_iff_units extent.low_isFinite bounds.finiteLow).mp
      (extent.low_le least (List.mem_filter.mp encloses.low_mem).1 bounds.finiteLow)
    omega
  · have above := encloses.le_high high highMember
    have below := (le_iff_units bounds.finiteHigh extent.high_isFinite).mp
      (extent.le_high greatest (List.mem_filter.mp encloses.high_mem).1 bounds.finiteHigh)
    omega

/-- The given extent stands for the one that the range is made for, up to the signs of zeros. -/
theorem IsExtent.ofValues_cases {values : List Binary64} (extent : IsExtent values low high) :
    ∃ least greatest, Bounds least greatest ∧ least.units = low.units ∧
      greatest.units = high.units ∧
      ofValues values = (fit? least greatest).getD (clamp least greatest) := by
  obtain ⟨least, greatest, found, bounds, sameLow, sameHigh⟩ := extent.exists_extent
  refine ⟨least, greatest, bounds, sameLow, sameHigh, ?_⟩
  unfold ofValues
  rw [found]

theorem padding_congr {value other : Binary64} (finite : value.isFinite = true)
    (finiteOther : other.isFinite = true) (same : value.units = other.units) :
    padding value = padding other := by
  unfold padding
  rw [abs_eq_of_units_eq finite finiteOther same]

theorem IsExtent.span_eq {values : List Binary64} (extent : IsExtent values low high)
    {least greatest : Binary64} (bounds : Bounds least greatest) (sameLow : least.units = low.units)
    (sameHigh : greatest.units = high.units) :
    (greatest - least).isFinite = (high - low).isFinite := by
  rw [Bool.eq_iff_iff, isFinite_sub_iff bounds.finiteHigh bounds.finiteLow,
    isFinite_sub_iff extent.high_isFinite extent.low_isFinite, sameLow, sameHigh]

theorem IsExtent.reaching {values : List Binary64} (extent : IsExtent values low high)
    (span : (high - low).isFinite = true) : Reaching low high (ofValues values) := by
  obtain ⟨least, greatest, bounds, sameLow, sameHigh, range⟩ := extent.ofValues_cases
  rw [← extent.span_eq bounds sameLow sameHigh] at span
  cases fits : fit? least greatest with
  | none =>
      rw [(fit?_eq_none_iff bounds).mp fits] at span
      cases span
  | some fitting =>
      obtain ⟨start, stop, start_le, le_stop⟩ := fit?_reaching bounds fits
      rw [range, fits, Option.getD_some]
      exact ⟨start, stop, sameLow ▸ start_le, sameHigh ▸ le_stop⟩

theorem IsExtent.opens {values : List Binary64} (extent : IsExtent values low high)
    (single : low.units = high.units) :
    ((ofValues values).start.units < low.units ∨ high.units < (ofValues values).stop.units) ∧
      ((low - padding low).isFinite = true → (ofValues values).start.units < low.units) ∧
      ((high + padding low).isFinite = true → high.units < (ofValues values).stop.units) := by
  obtain ⟨least, greatest, bounds, sameLow, sameHigh, range⟩ := extent.ofValues_cases
  have alone : least.units = greatest.units := by omega
  have ordered := repaired_ordered bounds alone
  have samePadding := padding_congr bounds.finiteLow extent.low_isFinite sameLow
  have finitePadding : (padding low).isFinite = true := by
    rw [← samePadding, ← margin_eq_padding bounds alone]
    exact (margin_bounds bounds).1
  rw [range, fit?_of_single bounds alone, Option.getD_some]
  refine ⟨by omega, ?_, ?_⟩
  · intro fits
    rw [isFinite_sub_iff extent.low_isFinite finitePadding, ← sameLow,
      ← isFinite_sub_iff bounds.finiteLow finitePadding, ← samePadding] at fits
    have := repaired_start_lt bounds alone fits
    omega
  · intro fits
    rw [isFinite_add_iff extent.high_isFinite finitePadding, ← sameHigh,
      ← isFinite_add_iff bounds.finiteHigh finitePadding, ← samePadding] at fits
    have := lt_repaired_stop bounds alone fits
    omega

theorem IsExtent.clamped {values : List Binary64} (extent : IsExtent values low high)
    (overflows : (high - low).isFinite = false) :
    ofValues values = clamp low high ∧ low.units < 0 ∧ 0 < high.units := by
  obtain ⟨least, greatest, bounds, sameLow, sameHigh, range⟩ := extent.ofValues_cases
  rw [← extent.span_eq bounds sameLow sameHigh] at overflows
  obtain ⟨negative, positive⟩ := signs_of_overflow bounds (Bool.eq_false_iff.mp overflows)
  rw [range, (fit?_eq_none_iff bounds).mpr overflows, Option.getD_none]
  have low_eq := eq_of_units_eq bounds.finiteLow extent.low_isFinite sameLow (by omega)
  have high_eq := eq_of_units_eq bounds.finiteHigh extent.high_isFinite sameHigh (by omega)
  exact ⟨by rw [low_eq, high_eq], by omega, by omega⟩

theorem units_zero : Binary64.zero.units = 0 := rfl

theorem clamp_around_zero (finiteLow : low.isFinite = true) (finiteHigh : high.isFinite = true)
    (negative : low.units < 0) (positive : 0 < high.units) :
    (clamp low high).start.lt .zero = true ∧ Binary64.zero.lt (clamp low high).stop = true := by
  obtain ⟨startFinite, start⟩ := clamp_start finiteLow high
  obtain ⟨stopFinite, stop⟩ := clamp_stop low finiteHigh
  have limit := clampLimit_bounds.1
  rw [lt_iff_units startFinite rfl, lt_iff_units rfl stopFinite, units_zero]
  omega

/-- An axis covers all finite values, and opens on some side around a single one, unless the span
of the values overflows; it then is clamped, and has zero inside. -/
theorem ofValues_covers {values : List Binary64} {low high : Binary64}
    (extent : IsExtent values low high) :
    ((high - low).isFinite = true →
      (∀ value ∈ values, value.isFinite = true →
        (ofValues values).start.le value = true ∧ value.le (ofValues values).stop = true) ∧
      (low.eq high = true →
        ((ofValues values).start.lt low = true ∨ high.lt (ofValues values).stop = true) ∧
        ((ofValues values).start.eq low = true → (low - padding low).isFinite = false) ∧
        ((ofValues values).stop.eq high = true → (high + padding low).isFinite = false))) ∧
    ((high - low).isFinite = false →
      ofValues values = ⟨low.max (-clampLimit), high.min clampLimit⟩ ∧
      (ofValues values).start.lt .zero = true ∧
      Binary64.zero.lt (ofValues values).stop = true) := by
  have finiteLow := extent.low_isFinite
  have finiteHigh := extent.high_isFinite
  constructor
  · intro span
    obtain ⟨start, stop, start_le, le_stop⟩ := extent.reaching span
    constructor
    · intro value member finite
      have above := (le_iff_units finiteLow finite).mp (extent.low_le value member finite)
      have below := (le_iff_units finite finiteHigh).mp (extent.le_high value member finite)
      exact ⟨(le_iff_units start finite).mpr (by omega), (le_iff_units finite stop).mpr (by omega)⟩
    · intro single
      obtain ⟨wide, below, above⟩ := extent.opens ((eq_iff_units finiteLow finiteHigh).mp single)
      rw [lt_iff_units start finiteLow, lt_iff_units finiteHigh stop, eq_iff_units start finiteLow,
        eq_iff_units stop finiteHigh]
      refine ⟨wide, ?_, ?_⟩
      · intro closed
        by_contra fits
        have := below (Bool.eq_true_of_not_eq_false fits)
        omega
      · intro closed
        by_contra fits
        have := above (Bool.eq_true_of_not_eq_false fits)
        omega
  · intro overflows
    obtain ⟨range, negative, positive⟩ := extent.clamped overflows
    rw [range]
    exact ⟨rfl, clamp_around_zero finiteLow finiteHigh negative positive⟩

def greatestValues : List Binary64 := [.infinite false, greatest, .nan, greatest]

def farValues : List Binary64 := [.zero, greatest, .infinite true, -greatest]

theorem isExtent_greatestValues : IsExtent greatestValues greatest greatest := by
  constructor <;> decide +kernel

theorem isExtent_farValues : IsExtent farValues (-greatest) greatest := by
  constructor <;> decide +kernel

theorem greatestValues_covered :
    IsExtent greatestValues greatest greatest ∧ IsExtent farValues (-greatest) greatest ∧
      (greatest + padding greatest).isFinite = false ∧
      ((ofValues greatestValues).start.lt greatest = true ∨
        greatest.lt (ofValues greatestValues).stop = true) ∧
      ofValues farValues = ⟨-clampLimit, clampLimit⟩ ∧
      (ofValues farValues).start.lt .zero = true := by
  obtain ⟨-, single⟩ := (ofValues_covers isExtent_greatestValues).1 (by decide +kernel)
  obtain ⟨opens, -, closed⟩ := single (by decide +kernel)
  obtain ⟨clamped, negative, -⟩ := (ofValues_covers isExtent_farValues).2 (by decide +kernel)
  refine ⟨isExtent_greatestValues, isExtent_farValues, closed (by decide +kernel), opens, ?_,
    negative⟩
  rw [clamped]
  decide +kernel

end Throughput.AxisRange
