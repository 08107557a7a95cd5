import Throughput.Proofs.Binary64.SameValue
import Throughput.Proofs.Chart.Coverage

/-!
Axis ranges depend on the extremes of the finite values and on nothing else. Which zero has been
met first may decide the sign of a zero extreme, but each step from the extremes to the range keeps
their values.
-/

namespace Throughput.AxisRange

open Binary64

structure SameBounds (range other : AxisRange) : Prop where
  start : SameValue range.start other.start
  stop : SameValue range.stop other.stop

theorem SameBounds.isFinite_eq {range other : AxisRange} (same : SameBounds range other) :
    range.isFinite = other.isFinite := by
  unfold isFinite
  rw [same.start.isFinite_eq, same.stop.isFinite_eq, (same.stop.sub same.start).isFinite_eq]

section Steps

variable {low high low' high' : Binary64} (sameLow : SameValue low low')
  (sameHigh : SameValue high high')

include sameLow sameHigh

theorem sameValue_margin : SameValue (margin low high) (margin low' high') := by
  unfold margin
  rw [sameLow.eq_eq sameHigh]
  split
  · exact (SameValue.refl _).max (sameLow.abs.mul_right _)
  · exact (sameHigh.mul_right _).sub (sameLow.mul_right _)

theorem sameBounds_padded : SameBounds (padded low high) (padded low' high') where
  start := sameLow.sub (sameValue_margin sameLow sameHigh)
  stop := sameHigh.add (sameValue_margin sameLow sameHigh)

theorem sameBounds_repaired : SameBounds (repaired low high) (repaired low' high') := by
  have same := sameBounds_padded sameLow sameHigh
  unfold repaired
  dsimp only
  rw [same.start.isFinite_eq, same.stop.isFinite_eq]
  constructor
  · dsimp only
    split
    · exact same.start
    · exact sameLow
  · dsimp only
    split
    · exact same.stop
    · exact sameHigh

theorem sameBounds_clamp : SameBounds (clamp low high) (clamp low' high') where
  start := sameLow.max (.refl _)
  stop := sameHigh.min (.refl _)

/-- The same exit is taken, and with the same range. -/
theorem sameBounds_fit? : Option.Rel SameBounds (fit? low high) (fit? low' high') := by
  have samePadded := sameBounds_padded sameLow sameHigh
  have sameRepaired := sameBounds_repaired sameLow sameHigh
  have bare : SameBounds ⟨low, high⟩ ⟨low', high'⟩ := ⟨sameLow, sameHigh⟩
  unfold fit?
  dsimp only
  rw [samePadded.isFinite_eq, sameRepaired.isFinite_eq, bare.isFinite_eq,
    sameRepaired.start.lt_eq sameRepaired.stop, sameLow.lt_eq sameHigh]
  split
  · exact .some samePadded
  · split
    · exact .some sameRepaired
    · split
      · exact .some bare
      · exact .none

theorem sameBounds_fitted : SameBounds ((fit? low high).getD (clamp low high))
    ((fit? low' high').getD (clamp low' high')) := by
  have related := sameBounds_fit? sameLow sameHigh
  generalize fit? low high = first at related ⊢
  generalize fit? low' high' = second at related ⊢
  cases related with
  | some same => exact same
  | none => exact sameBounds_clamp sameLow sameHigh

end Steps

inductive SameExtent (values others : List Binary64) : Prop
  | none (noValue : ∀ value ∈ values, value.isFinite = false)
      (noOther : ∀ other ∈ others, other.isFinite = false)
  | some {low high low' high' : Binary64} (extent : IsExtent values low high)
      (other : IsExtent others low' high') (sameLow : low.eq low' = true)
      (sameHigh : high.eq high' = true)

variable {values others : List Binary64}

theorem extent_eq_none (infinite : ∀ value ∈ values, value.isFinite = false) :
    extent values = none := by
  rw [extent, extremes_eq_none_iff, List.filter_eq_nil_iff]
  simpa using infinite

theorem ofValues_of_infinite (infinite : ∀ value ∈ values, value.isFinite = false) :
    ofValues values = ⟨.zero, .ofNat 1⟩ := by
  unfold ofValues
  rw [extent_eq_none infinite]

theorem IsExtent.isFinite_ofValues {low high : Binary64} (extent : IsExtent values low high) :
    (ofValues values).start.isFinite = true ∧ (ofValues values).stop.isFinite = true := by
  cases span : (high - low).isFinite with
  | true =>
      have reaching := extent.reaching span
      exact ⟨reaching.start_isFinite, reaching.stop_isFinite⟩
  | false =>
      rw [(extent.clamped span).1]
      exact ⟨(clamp_start extent.low_isFinite high).1, (clamp_stop low extent.high_isFinite).1⟩

theorem IsExtent.sameBounds {low high low' high' : Binary64} (extent : IsExtent values low high)
    (other : IsExtent others low' high') (sameLow : low.eq low' = true)
    (sameHigh : high.eq high' = true) : SameBounds (ofValues values) (ofValues others) := by
  rw [eq_iff_units extent.low_isFinite other.low_isFinite] at sameLow
  rw [eq_iff_units extent.high_isFinite other.high_isFinite] at sameHigh
  obtain ⟨least, greatest, bounds, least_eq, greatest_eq, range⟩ := extent.ofValues_cases
  obtain ⟨least', greatest', bounds', least'_eq, greatest'_eq, range'⟩ := other.ofValues_cases
  rw [range, range']
  apply sameBounds_fitted
  · exact .of_units_eq bounds.finiteLow bounds'.finiteLow (by omega)
  · exact .of_units_eq bounds.finiteHigh bounds'.finiteHigh (by omega)

/-- The range of an axis has numerically the same bounds for all values with the same extremes. -/
theorem ofValues_depends_on_extent (same : SameExtent values others) :
    (ofValues values).start.eq (ofValues others).start = true ∧
      (ofValues values).stop.eq (ofValues others).stop = true := by
  cases same with
  | none noValue noOther =>
      rw [ofValues_of_infinite noValue, ofValues_of_infinite noOther]
      decide +kernel
  | some extent other sameLow sameHigh =>
      obtain ⟨start, stop⟩ := extent.sameBounds other sameLow sameHigh
      obtain ⟨startFinite, stopFinite⟩ := extent.isFinite_ofValues
      exact ⟨start.eq (ne_nan_of_isFinite startFinite), stop.eq (ne_nan_of_isFinite stopFinite)⟩

def risingValues : List Binary64 := [.zero, .nan, .ofNat 2, .ofNat 3, .infinite true]

def fallingValues : List Binary64 := [.ofNat 3, .ofNat 1, .ofNat 3, -.zero, .zero]

theorem risingValues_sameExtent : SameExtent risingValues fallingValues := by
  have rising : IsExtent risingValues .zero (.ofNat 3) := by
    constructor <;> decide +kernel
  have falling : IsExtent fallingValues (-.zero) (.ofNat 3) := by
    constructor <;> decide +kernel
  exact .some rising falling (by decide +kernel) (by decide +kernel)

theorem risingValues_share_range : SameExtent risingValues fallingValues ∧
    extent risingValues ≠ extent fallingValues ∧
    (ofValues risingValues).start.eq (ofValues fallingValues).start = true ∧
    (ofValues risingValues).stop.eq (ofValues fallingValues).stop = true :=
  ⟨risingValues_sameExtent, by decide +kernel, ofValues_depends_on_extent risingValues_sameExtent⟩

end Throughput.AxisRange
