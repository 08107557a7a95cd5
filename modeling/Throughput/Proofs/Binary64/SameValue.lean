import Throughput.Proofs.Binary64.Order

/-!
Numbers of the same value: identical ones, and the two zeros. Comparisons do not tell them apart,
and sums, differences, products and choices of such numbers are of the same value again. Quotients
are not, since a divisor of zero shows its sign.
-/

namespace Throughput

theorem roundUnits_zero {denominator : Nat} (positive : 0 < denominator) :
    roundUnits 0 denominator = 0 := by
  simpa using roundUnits_of_aligned positive aligned_zero

attribute [local irreducible] Magnitude.limit Magnitude.one

namespace Binary64

theorem round_zero (negative : Bool) {denominator : Nat} (positive : 0 < denominator) :
    round negative 0 denominator = .finite negative .zero := by
  have zero := roundUnits_zero positive
  unfold round Magnitude.round?
  simp [zero, Magnitude.limit_pos, Magnitude.zero]

theorem signedUnits_zero (negative : Bool) : signedUnits negative .zero = 0 := by
  cases negative <;> rfl

theorem eq_zero_of_units {negative : Bool} {magnitude : Magnitude}
    (zero : signedUnits negative magnitude = 0) : magnitude = .zero := by
  apply magnitude_eq_of_units_eq
  rw [zero, signedUnits_zero negative]

theorem units_infinite (negative : Bool) : (infinite negative).units =
    if negative then -(Magnitude.limit : Int) else Magnitude.limit := rfl

theorem natAbs_units_infinite (negative : Bool) :
    (infinite negative).units.natAbs = Magnitude.limit := by
  rw [units_infinite]
  split <;> simp

theorem infinite_units_inj (left right : Bool) :
    (infinite left).units = (infinite right).units ↔ left = right := by
  have positive := Magnitude.limit_pos
  rw [units_infinite, units_infinite]
  cases left <;> cases right <;> simp <;> omega

theorem natAbs_units_of_finite (negative : Bool) (magnitude : Magnitude) :
    (finite negative magnitude).units.natAbs < Magnitude.limit := natAbs_units_lt rfl

theorem infinite_units_le_iff (negative : Bool) {units : Int}
    (inside : units.natAbs < Magnitude.limit) :
    (infinite negative).units ≤ units ↔ negative = true := by
  rw [units_infinite]
  cases negative with
  | false =>
      simp only [Bool.false_eq_true, if_false, iff_false]
      omega
  | true =>
      simp only [if_true, iff_true]
      omega

theorem le_infinite_units_iff (negative : Bool) {units : Int}
    (inside : units.natAbs < Magnitude.limit) :
    units ≤ (infinite negative).units ↔ negative = false := by
  rw [units_infinite]
  cases negative with
  | false =>
      simp only [Bool.false_eq_true, if_false, iff_true]
      omega
  | true =>
      simp only [if_true, Bool.true_eq_false, iff_false]
      omega

inductive SameValue : Binary64 → Binary64 → Prop
  | refl (value : Binary64) : SameValue value value
  | zeros (left right : Bool) : SameValue (.finite left .zero) (.finite right .zero)

namespace SameValue

variable {left left' right right' : Binary64}

theorem position_eq (same : SameValue left left') : left.position = left'.position := by
  cases same with
  | refl => rfl
  | zeros first second => simp [position, signedUnits_zero]

theorem isFinite_eq (same : SameValue left left') : left.isFinite = left'.isFinite := by
  cases same <;> rfl

theorem ne_nan (same : SameValue left left') (number : left ≠ .nan) : left' ≠ .nan := by
  cases same with
  | refl => exact number
  | zeros first second => simp

theorem lt_eq (same : SameValue left left') (same' : SameValue right right') :
    left.lt right = left'.lt right' := by
  unfold lt
  rw [same.position_eq, same'.position_eq]

theorem eq_eq (same : SameValue left left') (same' : SameValue right right') :
    left.eq right = left'.eq right' := by
  unfold Binary64.eq
  rw [same.position_eq, same'.position_eq]

theorem eq (same : SameValue left left') (number : left ≠ .nan) : left.eq left' = true := by
  rw [← eq_eq (.refl left) same]
  exact eq_iff.mpr ⟨number, number, rfl⟩

theorem of_units_eq (finite : left.isFinite = true) (finite' : left'.isFinite = true)
    (equal : left.units = left'.units) : SameValue left left' := by
  by_cases zero : left.units = 0
  · obtain ⟨negative, magnitude, rfl⟩ := exists_of_isFinite finite
    obtain ⟨negative', magnitude', rfl⟩ := exists_of_isFinite finite'
    rw [units_finite] at zero equal
    rw [units_finite] at equal
    rw [eq_zero_of_units zero, eq_zero_of_units (equal.symm.trans zero)]
    exact .zeros negative negative'
  · rw [eq_of_units_eq finite finite' equal zero]
    exact .refl left'

theorem of_eq (equal : left.eq left' = true) : SameValue left left' := by
  obtain ⟨number, number', equal⟩ := eq_iff.mp equal
  cases left with
  | nan => exact absurd rfl number
  | infinite negative =>
      cases left' with
      | nan => exact absurd rfl number'
      | infinite negative' =>
          rw [(infinite_units_inj negative negative').mp equal]
          exact .refl _
      | finite negative' magnitude =>
          have inside := natAbs_units_of_finite negative' magnitude
          rw [← equal, natAbs_units_infinite] at inside
          omega
  | finite negative magnitude =>
      have inside := natAbs_units_of_finite negative magnitude
      rw [equal] at inside
      exact of_units_eq rfl ((isFinite_iff_units number').mpr inside) equal

/-! Operations. -/

protected theorem neg (same : SameValue left left') : SameValue (-left) (-left') := by
  cases same with
  | refl => exact .refl (-left)
  | zeros first second => exact .zeros (!first) (!second)

protected theorem abs (same : SameValue left left') : SameValue left.abs left'.abs := by
  cases same with
  | refl => exact .refl left.abs
  | zeros first second => exact .zeros false false

protected theorem min (same : SameValue left left') (same' : SameValue right right') :
    SameValue (left.min right) (left'.min right') := by
  by_cases number : left = .nan
  · subst number
    cases same
    exact same'
  · rw [min_of_number number, min_of_number (same.ne_nan number), lt_eq same' same]
    split
    · exact same'
    · exact same

protected theorem max (same : SameValue left left') (same' : SameValue right right') :
    SameValue (left.max right) (left'.max right') := by
  by_cases number : left = .nan
  · subst number
    cases same
    exact same'
  · rw [max_of_number number, max_of_number (same.ne_nan number), lt_eq same same']
    split
    · exact same'
    · exact same

theorem add_of_total_eq {first second first' second' : Bool} {magnitude other : Magnitude}
    {magnitude' other' : Magnitude}
    (equal : signedUnits first magnitude + signedUnits second other =
      signedUnits first' magnitude' + signedUnits second' other') :
    SameValue (finite first magnitude + finite second other)
      (finite first' magnitude' + finite second' other') := by
  rw [add_finite, add_finite, equal]
  dsimp only
  split
  · exact .zeros _ _
  · exact .refl _

protected theorem add (same : SameValue left left') (same' : SameValue right right') :
    SameValue (left + right) (left' + right') := by
  cases same with
  | refl =>
      cases same' with
      | refl => exact .refl (left + right)
      | zeros first second =>
          cases left with
          | nan => exact .refl .nan
          | infinite negative => exact .refl (.infinite negative)
          | finite negative magnitude =>
              exact add_of_total_eq (by rw [signedUnits_zero, signedUnits_zero])
  | zeros first second =>
      cases same' with
      | refl =>
          cases right with
          | nan => exact .refl .nan
          | infinite negative => exact .refl (.infinite negative)
          | finite negative magnitude =>
              exact add_of_total_eq (by rw [signedUnits_zero, signedUnits_zero])
      | zeros first' second' => exact add_of_total_eq (by simp only [signedUnits_zero])

protected theorem sub (same : SameValue left left') (same' : SameValue right right') :
    SameValue (left - right) (left' - right') :=
  same.add same'.neg

theorem mul_right (same : SameValue left left') (factor : Binary64) :
    SameValue (left * factor) (left' * factor) := by
  cases same with
  | refl => exact .refl (left * factor)
  | zeros first second =>
      cases factor with
      | nan => exact .refl .nan
      | infinite negative => exact .refl .nan
      | finite negative magnitude =>
          rw [mul_finite, mul_finite, Magnitude.zero, Nat.zero_mul,
            round_zero _ Magnitude.one_pos, round_zero _ Magnitude.one_pos]
          exact .zeros _ _

end SameValue

end Binary64

end Throughput
