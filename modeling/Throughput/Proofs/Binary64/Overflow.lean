import Throughput.Proofs.Binary64.Nearest

/-!
Which quotients are too large. Between the greatest finite number and the next power of two lies a
point from which on numbers become infinite.
-/

namespace Throughput.Binary64

/-- The least number that is rounded to infinity. -/
def overflow : Nat := Nat.pow 2 1024 - Nat.pow 2 970

/-- In units, the greatest finite number is as far below this point as the limit is above it. -/
theorem overflow_units : overflow * Magnitude.one + Nat.pow 2 2044 = Magnitude.limit ∧
    wholeLimit * Magnitude.one + Nat.pow 2 2044 = overflow * Magnitude.one := by
  decide +kernel

theorem roundUnits_lt_limit {numerator denominator : Nat}
    (small : numerator < overflow * Magnitude.one * denominator) :
    roundUnits numerator denominator < Magnitude.limit := by
  have positive : 0 < denominator := Nat.pos_of_ne_zero fun zero => by simp [zero] at small
  obtain ⟨above, beneath⟩ := overflow_units
  obtain ⟨below, aligned⟩ := wholeLimit_units
  generalize overflow * Magnitude.one = middle at *
  generalize wholeLimit * Magnitude.one = greatest at *
  generalize Magnitude.limit = limit at *
  generalize Nat.pow 2 2044 = step at *
  by_cases further : numerator ≤ greatest * denominator
  · exact Nat.lt_of_le_of_lt (roundUnits_le positive aligned further) below
  · refine Nat.lt_of_not_le fun infinite => ?_
    obtain ⟨nearest, -⟩ := roundUnits_preferred numerator positive aligned
    have chosen : limit * denominator ≤ roundUnits numerator denominator * denominator :=
      Nat.mul_le_mul_right _ infinite
    have apart : limit * denominator = middle * denominator + step * denominator := by
      rw [← above, Nat.add_mul]
    have close : middle * denominator = greatest * denominator + step * denominator := by
      rw [← beneath, Nat.add_mul]
    unfold deviation at nearest
    omega

theorem isFinite_ofRatio {numerator denominator : Nat}
    (small : numerator < overflow * denominator) :
    (ofRatio numerator denominator).isFinite = true := by
  rw [ofRatio, isFinite_round_iff]
  refine roundUnits_lt_limit ?_
  rw [Nat.mul_right_comm]
  exact Nat.mul_lt_mul_of_pos_right small Magnitude.one_pos

end Throughput.Binary64
