import Throughput.Proofs.Binary64.SameValue
import Throughput.Table.Column

/-!
Conversion to mebibytes. A number that is not tiny has room for it in its exponent, so that it is
converted without rounding, and no other number is converted to the same. The order is kept by all
numbers, the tiny ones that are rounded and the infinite ones included.
-/

namespace Throughput

attribute [local irreducible] Magnitude.limit Magnitude.one

/-- A large number with few significant bits can be halved without losing one. -/
theorem Aligned.exists_quotient {units : Int} (aligned : Aligned units.natAbs) {step : Nat}
    (large : 2 ^ (52 + step) ≤ units.natAbs) :
    ∃ quotient : Int, Aligned quotient.natAbs ∧ units = quotient * (2 ^ step : Nat) := by
  obtain ⟨count, small, parts⟩ := aligned.count_lt
  have nonzero : units.natAbs ≠ 0 := by
    have := Nat.two_pow_pos (52 + step)
    omega
  have top : 52 + step ≤ units.natAbs.log2 := (Nat.le_log2 nonzero).mpr large
  have divided : spacing units.natAbs = 2 ^ (units.natAbs.log2 - 52 - step) * 2 ^ step := by
    rw [← Nat.pow_add, Nat.sub_add_cancel (by omega)]
    rfl
  rw [divided, ← Nat.mul_assoc] at parts
  have halved := aligned_mul_two_pow (Nat.le_of_lt small) (units.natAbs.log2 - 52 - step)
  generalize count * 2 ^ (units.natAbs.log2 - 52 - step) = quotient at parts halved
  rcases Int.natAbs_eq units with positive | negative
  · exact ⟨quotient, by simpa using halved, by rw [positive, parts, Nat.cast_mul]⟩
  · exact ⟨-quotient, by simpa using halved, by rw [negative, parts, Nat.cast_mul, Int.neg_mul]⟩

theorem nearestUnits_mul_right (numerator : Int) {denominator factor : Nat}
    (positive : 0 < denominator) (nonzero : 0 < factor) :
    nearestUnits (numerator * factor) (denominator * factor) =
      nearestUnits numerator denominator := by
  have scaled := Nat.mul_pos positive nonzero
  have same : numerator * factor * denominator = numerator * (denominator * factor : Nat) := by
    push_cast
    ring
  exact Int.le_antisymm (nearestUnits_mono scaled positive (Int.le_of_eq same))
    (nearestUnits_mono positive scaled (Int.le_of_eq same.symm))

namespace Binary64

theorem units_div {left right : Binary64} (finiteLeft : left.isFinite = true)
    (finiteRight : right.isFinite = true) {divisor : Nat} (positive : 0 < divisor)
    (whole : right.units = divisor) :
    (left / right).units = nearestUnits (left.units * Magnitude.one) divisor := by
  obtain ⟨leftSign, left, rfl⟩ := exists_of_isFinite finiteLeft
  obtain ⟨rightSign, right, rfl⟩ := exists_of_isFinite finiteRight
  have size : right.units = divisor := by
    rw [← natAbs_signedUnits rightSign right, ← units_finite, whole, Int.natAbs_natCast]
  have unsigned : rightSign = false := by
    cases rightSign with
    | false => rfl
    | true =>
        simp only [units_finite, signedUnits, if_true] at whole
        omega
  subst unsigned
  rw [div_finite _ _ _ (by omega), size, units_round, units_finite]
  have rounded := nearestUnits_natCast (left.units * Magnitude.one) divisor positive
  rw [Nat.cast_mul] at rounded
  cases leftSign with
  | false => simp [signedUnits, rounded]
  | true => simp [signedUnits, rounded, nearestUnits_neg]

theorem mebibyte_units : mebibyte.isFinite = true ∧
    mebibyte.units = (2 ^ 20 * Magnitude.one : Nat) ∧ 0 < 2 ^ 20 * Magnitude.one := by
  decide +kernel

theorem isFinite_toMebibytes {bytes : Binary64} (finite : bytes.isFinite = true) :
    bytes.toMebibytes.isFinite = true := by
  obtain ⟨finiteDivisor, divisor, -⟩ := mebibyte_units
  apply isFinite_div finite finiteDivisor
  rw [divisor, Int.natAbs_natCast]
  omega

theorem units_toMebibytes {bytes : Binary64} (finite : bytes.isFinite = true) :
    bytes.toMebibytes.units = nearestUnits bytes.units (2 ^ 20) := by
  obtain ⟨finiteDivisor, divisor, positive⟩ := mebibyte_units
  rw [toMebibytes, units_div finite finiteDivisor positive divisor]
  exact nearestUnits_mul_right _ (by decide) Magnitude.one_pos

/-- Where a number is large enough to be converted without rounding. -/
theorem exactLimit_lt : 2 ^ 73 ≤ Magnitude.one ∧ 2 ^ 73 ≤ Magnitude.limit := by
  decide +kernel

theorem units_toMebibytes_of_large {bytes : Binary64} (finite : bytes.isFinite = true)
    (large : 2 ^ 72 ≤ bytes.units.natAbs) : bytes.toMebibytes.units * 2 ^ 20 = bytes.units := by
  have below := natAbs_units_lt finite
  obtain ⟨quotient, aligned, parts⟩ :
      ∃ quotient : Int, Aligned quotient.natAbs ∧ bytes.units = quotient * (2 ^ 20 : Nat) :=
    (aligned_units finite).exists_quotient large
  rw [parts, Int.natAbs_mul, Int.natAbs_natCast] at below
  rw [units_toMebibytes finite, parts, nearestUnits_of_aligned (by decide) aligned (by omega)]
  rfl

theorem natAbs_units_toMebibytes_le {bytes : Binary64} (finite : bytes.isFinite = true)
    (small : bytes.units.natAbs < 2 ^ 72) : bytes.toMebibytes.units.natAbs ≤ 2 ^ 52 := by
  have limit := exactLimit_lt.2
  rw [units_toMebibytes finite]
  exact natAbs_nearestUnits_le (by decide) (aligned_two_pow 52) (by omega) (by omega)

/-- What is below a number of at least one stays below it. -/
theorem units_toMebibytes_lt {bytes other : Binary64} (finite : bytes.isFinite = true)
    (finiteOther : other.isFinite = true) (large : Magnitude.one ≤ bytes.units.natAbs)
    (below : other.units < bytes.units) : other.toMebibytes.units < bytes.toMebibytes.units := by
  have unit := exactLimit_lt.1
  have converted := units_toMebibytes_of_large finite (by omega)
  by_cases small : other.units.natAbs < 2 ^ 72
  · have := natAbs_units_toMebibytes_le finiteOther small
    omega
  · have := units_toMebibytes_of_large finiteOther (Nat.not_lt.mp small)
    omega

/-- A number that was converted without rounding is the product with the divisor. -/
theorem toMebibytes_mul {bytes : Binary64} (finite : bytes.isFinite = true)
    (large : 2 ^ 72 ≤ bytes.units.natAbs) : bytes.toMebibytes * mebibyte = bytes := by
  obtain ⟨finiteFactor, factor, -⟩ := mebibyte_units
  have finiteRate := isFinite_toMebibytes finite
  have product : (bytes.toMebibytes * mebibyte).units = bytes.units := by
    rw [units_mul finiteRate finiteFactor, factor, Nat.cast_mul, ← Int.mul_assoc,
      Nat.cast_pow, Nat.cast_two, units_toMebibytes_of_large finite large]
    exact nearestUnits_of_aligned Magnitude.one_pos (aligned_units finite)
      (Nat.le_of_lt (natAbs_units_lt finite))
  have finiteProduct : (bytes.toMebibytes * mebibyte).isFinite = true := by
    rw [isFinite_iff_units (mul_ne_nan finiteRate finiteFactor), product]
    exact natAbs_units_lt finite
  exact eq_of_units_eq finiteProduct finite product (by omega)

/-! Infinite numbers and zeros are converted to themselves. -/

theorem exists_mebibyte :
    ∃ magnitude : Magnitude, mebibyte = .finite false magnitude ∧ magnitude.units ≠ 0 := by
  obtain ⟨finite, units, positive⟩ := mebibyte_units
  have unsigned : mebibyte.isNegative = false := by decide +kernel
  obtain ⟨negative, magnitude, shape⟩ := exists_of_isFinite finite
  rw [shape] at units unsigned
  cases unsigned
  refine ⟨magnitude, shape, ?_⟩
  have size := natAbs_signedUnits false magnitude
  rw [← units_finite, units] at size
  omega

theorem toMebibytes_infinite (negative : Bool) :
    (infinite negative).toMebibytes = .infinite negative := by
  obtain ⟨divisor, shape, -⟩ := exists_mebibyte
  rw [toMebibytes, shape]
  change infinite (negative != false) = .infinite negative
  rw [Bool.bne_false]

theorem toMebibytes_zero (negative : Bool) :
    (finite negative .zero).toMebibytes = .finite negative .zero := by
  obtain ⟨divisor, shape, nonzero⟩ := exists_mebibyte
  rw [toMebibytes, shape, div_finite _ _ _ nonzero, Magnitude.zero, Nat.zero_mul,
    round_zero _ (Nat.pos_of_ne_zero nonzero), Bool.bne_false]
  rfl

theorem infinite_mul_mebibyte (negative : Bool) :
    infinite negative * mebibyte = .infinite negative := by
  obtain ⟨factor, shape, nonzero⟩ := exists_mebibyte
  rw [shape]
  change (if factor.units = 0 then nan else infinite (negative != false)) = .infinite negative
  rw [if_neg nonzero, Bool.bne_false]

theorem zero_mul_mebibyte (negative : Bool) :
    finite negative .zero * mebibyte = .finite negative .zero := by
  obtain ⟨factor, shape, -⟩ := exists_mebibyte
  rw [shape, mul_finite, Magnitude.zero, Nat.zero_mul, round_zero _ Magnitude.one_pos,
    Bool.bne_false]
  rfl

theorem toMebibytes_ne_nan {bytes : Binary64} (number : bytes ≠ .nan) :
    bytes.toMebibytes ≠ .nan := by
  cases bytes with
  | nan => exact absurd rfl number
  | infinite negative =>
      rw [toMebibytes_infinite]
      exact number
  | finite negative magnitude => exact ne_nan_of_isFinite (isFinite_toMebibytes rfl)

theorem natAbs_units_toMebibytes_of_finite (negative : Bool) (magnitude : Magnitude) :
    (finite negative magnitude).toMebibytes.units.natAbs < Magnitude.limit :=
  natAbs_units_lt (isFinite_toMebibytes rfl)

theorem units_toMebibytes_mono {bytes other : Binary64} (number : bytes ≠ .nan)
    (otherNumber : other ≠ .nan) (ordered : bytes.units ≤ other.units) :
    bytes.toMebibytes.units ≤ other.toMebibytes.units := by
  cases bytes with
  | nan => exact absurd rfl number
  | infinite negative =>
      cases other with
      | nan => exact absurd rfl otherNumber
      | infinite negative' =>
          rw [toMebibytes_infinite, toMebibytes_infinite]
          exact ordered
      | finite negative' magnitude =>
          rw [infinite_units_le_iff negative (natAbs_units_of_finite _ _)] at ordered
          rw [toMebibytes_infinite,
            infinite_units_le_iff negative (natAbs_units_toMebibytes_of_finite _ _)]
          exact ordered
  | finite negative magnitude =>
      cases other with
      | nan => exact absurd rfl otherNumber
      | infinite negative' =>
          rw [le_infinite_units_iff negative' (natAbs_units_of_finite _ _)] at ordered
          rw [toMebibytes_infinite,
            le_infinite_units_iff negative' (natAbs_units_toMebibytes_of_finite _ _)]
          exact ordered
      | finite negative' magnitude' =>
          rw [units_toMebibytes rfl, units_toMebibytes rfl]
          apply nearestUnits_mono (by decide) (by decide)
          exact Int.mul_le_mul_of_nonneg_right ordered (Int.natCast_nonneg _)

theorem toMebibytes_le {bytes other : Binary64} (ordered : bytes.le other = true) :
    bytes.toMebibytes.le other.toMebibytes = true := by
  obtain ⟨number, otherNumber, ordered⟩ := le_iff.mp ordered
  exact le_iff.mpr ⟨toMebibytes_ne_nan number, toMebibytes_ne_nan otherNumber,
    units_toMebibytes_mono number otherNumber ordered⟩

/-! Numbers that the product with the divisor gives back. -/

def leastExact : Binary64 := ofRatio 1 (Nat.pow 2 1002)

theorem leastExact_units : leastExact.isFinite = true ∧ leastExact.units = (2 ^ 72 : Nat) := by
  decide +kernel

def Restorable (bytes : Binary64) : Prop :=
  leastExact.le bytes.abs = true ∨ bytes.eq .zero = true ∨ bytes.isInfinite = true

instance (bytes : Binary64) : Decidable bytes.Restorable := inferInstanceAs (Decidable (_ ∨ _))

theorem Restorable.ne_nan {bytes : Binary64} (restorable : bytes.Restorable) : bytes ≠ .nan := by
  rintro rfl
  revert restorable
  decide +kernel

theorem Restorable.cases {bytes : Binary64} (restorable : bytes.Restorable) :
    (∃ negative, bytes = .infinite negative) ∨ (∃ negative, bytes = .finite negative .zero) ∨
      bytes.isFinite = true ∧ 2 ^ 72 ≤ bytes.units.natAbs := by
  cases bytes with
  | nan => exact absurd rfl restorable.ne_nan
  | infinite negative => exact .inl ⟨negative, rfl⟩
  | finite negative magnitude =>
      rcases restorable with large | zero | infinite
      · obtain ⟨-, -, bound⟩ := le_iff.mp large
        rw [leastExact_units.2, units_abs rfl] at bound
        exact .inr (.inr ⟨rfl, by omega⟩)
      · have same := (eq_iff_units rfl rfl).mp zero
        rw [eq_zero_of_units (same : signedUnits negative magnitude = 0)]
        exact .inr (.inl ⟨negative, rfl⟩)
      · cases infinite

theorem Restorable.restored {bytes : Binary64} (restorable : bytes.Restorable) :
    bytes.toMebibytes * mebibyte = bytes := by
  rcases restorable.cases with ⟨negative, rfl⟩ | ⟨negative, rfl⟩ | ⟨finite, large⟩
  · rw [toMebibytes_infinite, infinite_mul_mebibyte]
  · rw [toMebibytes_zero, zero_mul_mebibyte]
  · exact toMebibytes_mul finite large

/-- Rates of the same value come from byte rates of the same value. -/
theorem Restorable.eq_of_toMebibytes_eq {bytes other : Binary64} (restorable : bytes.Restorable)
    (otherRestorable : other.Restorable) (same : bytes.toMebibytes.eq other.toMebibytes = true) :
    bytes.eq other = true := by
  have products := (SameValue.of_eq same).mul_right mebibyte
  rw [restorable.restored, otherRestorable.restored] at products
  exact products.eq restorable.ne_nan

end Binary64

end Throughput
