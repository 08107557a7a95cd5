import Throughput.Proofs.Binary64.Units

/-! Whole numbers. Up to 2^53 they are all numbers, so that nothing is lost when one is widened. -/

namespace Throughput.Binary64

attribute [local irreducible] Magnitude.limit Magnitude.one

structure IsWhole (value : Binary64) (count : Int) : Prop where
  finite : value.isFinite = true
  units : value.units = count * Magnitude.one

theorem whole_units_lt : 2 ^ 53 * Magnitude.one < Magnitude.limit ∧ 2 ^ 53 ≤ wholeLimit := by
  decide +kernel

theorem aligned_whole {count : Nat} (small : count ≤ 2 ^ 53) :
    Aligned (count * Magnitude.one) := by
  unfold Magnitude.one
  apply aligned_mul_two_pow small

theorem nearestUnits_whole {count : Int} (small : count.natAbs ≤ 2 ^ 53) :
    nearestUnits (count * Magnitude.one) 1 = count * Magnitude.one := by
  have size : (count * Magnitude.one).natAbs = count.natAbs * Magnitude.one := by
    rw [Int.natAbs_mul, Int.natAbs_natCast]
  have inside : count.natAbs * Magnitude.one < Magnitude.limit :=
    Nat.lt_of_le_of_lt (Nat.mul_le_mul_right _ small) whole_units_lt.1
  have exact := nearestUnits_of_aligned Nat.one_pos (size ▸ aligned_whole small)
    (size ▸ Nat.le_of_lt inside)
  rwa [Nat.cast_one, Int.mul_one] at exact

theorem isWhole_ofInt {count : Int} (small : count.natAbs ≤ 2 ^ 53) :
    IsWhole (ofInt count) count where
  finite := isFinite_ofInt (Nat.le_trans small whole_units_lt.2)
  units := (units_round_fraction count Nat.one_pos).trans (nearestUnits_whole small)

theorem isWhole_ofNat {count : Nat} (small : count ≤ 2 ^ 53) : IsWhole (ofNat count) count where
  finite := isFinite_ofNat (Nat.le_trans small whole_units_lt.2)
  units := by
    rw [units_ofNat, Nat.cast_mul]
    exact nearestUnits_whole (by simpa using small)

end Throughput.Binary64
