import Throughput.Proofs.Binary64.Units

/-!
Rounding chooses the nearest number. No finite number is nearer to an exact quotient than the
rounded one, and when another one is equally near, the rounded one has the even significand.
-/

namespace Throughput

def deviation (numerator : Int) (denominator : Nat) (count : Int) : Nat :=
  (count * denominator - numerator).natAbs

/-- Another count is no nearer to the numerator than the chosen one, and just as near only when the
chosen one is even. -/
def Preferred (numerator : Int) (denominator : Nat) (chosen other : Int) (even : Prop) : Prop :=
  deviation numerator denominator chosen ≤ deviation numerator denominator other ∧
    (deviation numerator denominator other = deviation numerator denominator chosen →
      other = chosen ∨ even)

section Quotients

variable (numerator : Nat) {denominator : Nat}

theorem nearestEven_preferred (positive : 0 < denominator) (count : Nat) :
    Preferred numerator denominator (nearestEven numerator denominator) count
      (nearestEven numerator denominator % 2 = 0) := by
  have parts := Nat.div_add_mod numerator denominator
  have remainder := Nat.mod_lt numerator positive
  rw [Nat.mul_comm] at parts
  unfold Preferred deviation nearestEven
  dsimp only
  generalize numerator / denominator = floor at *
  have next : (floor + 1) * denominator = floor * denominator + denominator := Nat.succ_mul _ _
  rcases Nat.lt_trichotomy count floor with below | rfl | above
  · have further : (count + 1) * denominator ≤ floor * denominator := Nat.mul_le_mul_right _ below
    rw [Nat.succ_mul] at further
    split <;> omega
  · split <;> omega
  · obtain rfl | above : count = floor + 1 ∨ floor + 1 + 1 ≤ count := by omega
    · split <;> omega
    · have further : (floor + 1 + 1) * denominator ≤ count * denominator :=
        Nat.mul_le_mul_right _ above
      rw [Nat.succ_mul] at further
      split <;> omega

/-- Some multiple of the spacing is as near as an aligned number, and only the number itself is
exactly as near. -/
theorem exists_multiple_as_near {units : Nat} (positive : 0 < denominator)
    (aligned : Aligned units) :
    ∃ count : Nat,
      deviation numerator denominator (count * spacing (numerator / denominator) : Nat) ≤
          deviation numerator denominator units ∧
        (deviation numerator denominator (count * spacing (numerator / denominator) : Nat) =
            deviation numerator denominator units →
          count * spacing (numerator / denominator) = units) := by
  rcases Nat.le_total (units * denominator) numerator with below | above
  · obtain ⟨count, least, between⟩ := exists_multiple_between positive aligned below
    refine ⟨count, ?_⟩
    generalize count * spacing (numerator / denominator) = multiple at *
    have ordered := Nat.mul_le_mul_right denominator least
    unfold deviation
    refine ⟨by omega, fun same => ?_⟩
    exact Nat.eq_of_mul_eq_mul_right positive (by omega)
  · have floor : numerator / denominator ≤ units := Nat.div_le_of_le_mul (by rwa [Nat.mul_comm])
    obtain ⟨count, parts⟩ := Nat.dvd_trans (spacing_dvd_spacing floor) aligned
    rw [Nat.mul_comm] at parts
    exact ⟨count, by rw [← parts], fun _ => parts.symm⟩

def EvenSignificand (units : Nat) : Prop := 2 * spacing units ∣ units

theorem evenSignificand_mul_two_pow {count : Nat} (bound : count ≤ 2 ^ 53) (even : 2 ∣ count)
    (step : Nat) : EvenSignificand (count * 2 ^ step) := by
  rcases Nat.lt_or_eq_of_le bound with small | rfl
  · obtain ⟨half, rfl⟩ := even
    have finer : spacing (2 * half * 2 ^ step) ∣ 2 ^ step := by
      apply Nat.pow_dvd_pow
      by_cases zero : 2 * half * 2 ^ step = 0
      · simp [zero]
      · have top : 2 * half * 2 ^ step < 2 ^ (53 + step) := by
          rw [Nat.pow_add]
          exact (Nat.mul_lt_mul_right (Nat.two_pow_pos _)).mpr small
        have := (Nat.log2_lt zero).mpr top
        omega
    have doubled := Nat.mul_dvd_mul_left 2 (Nat.dvd_trans finer (Nat.dvd_mul_left _ half))
    rw [← Nat.mul_assoc] at doubled
    exact doubled
  · rw [EvenSignificand, ← Nat.pow_add, spacing, Nat.log2_two_pow]
    change 2 * 2 ^ _ ∣ _
    rw [← Nat.pow_succ']
    exact Nat.pow_dvd_pow 2 (by omega)

theorem roundUnits_preferred {units : Nat} (positive : 0 < denominator) (aligned : Aligned units) :
    Preferred numerator denominator (roundUnits numerator denominator) units
      (EvenSignificand (roundUnits numerator denominator)) := by
  obtain ⟨count, asNear, same⟩ := exists_multiple_as_near numerator positive aligned
  have step := spacing_pos (numerator / denominator)
  have fewer := nearestEven_le numerator (denominator * spacing (numerator / denominator))
  rw [← Nat.div_div_eq_div_mul] at fewer
  have bound : nearestEven numerator (denominator * spacing (numerator / denominator)) ≤ 2 ^ 53 :=
    Nat.le_trans fewer (div_spacing_lt _)
  obtain ⟨closest, tie⟩ := nearestEven_preferred numerator
    (Nat.mul_pos positive step) count
  have counted (count : Nat) :
      deviation numerator (denominator * spacing (numerator / denominator)) count =
        deviation numerator denominator (count * spacing (numerator / denominator) : Nat) := by
    unfold deviation
    push_cast
    ring_nf
  rw [counted, counted] at closest tie
  change deviation numerator denominator (roundUnits numerator denominator) ≤ _ at closest
  change _ = deviation numerator denominator (roundUnits numerator denominator) → _ at tie
  refine ⟨Nat.le_trans closest asNear, ?_⟩
  intro equal
  have counts := same (by omega)
  rcases tie (by rw [counts]; exact equal) with chosen | even
  · left
    rw [← counts, Int.natCast_inj.mp chosen]
    rfl
  · right
    exact evenSignificand_mul_two_pow bound (Nat.dvd_of_mod_eq_zero even) _

end Quotients

attribute [local irreducible] Magnitude.limit Magnitude.one

theorem deviation_neg (numerator : Int) (denominator : Nat) (count : Int) :
    deviation (-numerator) denominator (-count) = deviation numerator denominator count := by
  unfold deviation
  rw [Int.neg_mul]
  omega

theorem nearestUnits_preferred {numerator units : Int} {denominator : Nat}
    (positive : 0 < denominator)
    (inRange : roundUnits numerator.natAbs denominator < Magnitude.limit)
    (aligned : Aligned units.natAbs) :
    Preferred numerator denominator (nearestUnits numerator denominator) units
      (EvenSignificand (nearestUnits numerator denominator).natAbs) := by
  have upper {size : Nat} (units : Int) (inRange : roundUnits size denominator < Magnitude.limit)
      (aligned : Aligned units.natAbs) :
      Preferred size denominator (nearestUnits size denominator) units
        (EvenSignificand (nearestUnits size denominator).natAbs) := by
    rw [nearestUnits_natCast _ _ positive, Nat.min_eq_left (Nat.le_of_lt inRange),
      Int.natAbs_natCast]
    rcases lt_or_ge units 0 with below | above
    · have product := Int.mul_neg_of_neg_of_pos below (Int.natCast_pos.mpr positive)
      obtain ⟨closest, -⟩ := roundUnits_preferred size positive aligned_zero
      have nearer : deviation size denominator (0 : Nat) < deviation size denominator units := by
        unfold deviation
        omega
      exact ⟨by omega, by omega⟩
    · lift units to Nat using above
      exact roundUnits_preferred size positive aligned
  rcases Int.le_total 0 numerator with above | below
  · lift numerator to Nat using above
    exact upper units inRange aligned
  · obtain ⟨size, rfl⟩ := Int.exists_eq_neg_ofNat below
    rw [Int.natAbs_neg, Int.natAbs_natCast] at inRange
    obtain ⟨closest, tie⟩ := upper (-units) inRange (by rwa [Int.natAbs_neg])
    unfold Preferred
    rw [nearestUnits_neg, deviation_neg, Int.natAbs_neg, ← deviation_neg (-(size : Int)),
      Int.neg_neg]
    exact ⟨closest, fun equal => (tie equal).imp_left fun same => by omega⟩

namespace Binary64

structure Nearest (numerator : Int) (denominator : Nat) (number : Binary64) : Prop where
  finite : number.isFinite = true
  preferred (other : Binary64) (finite : other.isFinite = true) :
    Preferred (numerator * Magnitude.one) denominator number.units other.units
      (EvenSignificand number.units.natAbs)
  sign : number.isNegative = decide (numerator < 0)

theorem isNegative_round (negative : Bool) (numerator denominator : Nat) :
    (round negative numerator denominator).isNegative = negative := by
  unfold round
  split <;> rfl

theorem nearest_round {numerator : Int} {denominator : Nat} (positive : 0 < denominator)
    (finite : (round (decide (numerator < 0)) (numerator.natAbs * Magnitude.one)
      denominator).isFinite = true) :
    Nearest numerator denominator
      (round (decide (numerator < 0)) (numerator.natAbs * Magnitude.one) denominator) := by
  have inRange := (isFinite_round_iff _ _ _).mp finite
  have size : (numerator * Magnitude.one).natAbs = numerator.natAbs * Magnitude.one := by
    rw [Int.natAbs_mul, Int.natAbs_natCast]
  rw [← size] at inRange
  refine ⟨finite, fun other finiteOther => ?_, isNegative_round _ _ _⟩
  rw [units_round_fraction numerator positive]
  exact nearestUnits_preferred positive inRange (aligned_units finiteOther)

theorem nearest_ofInt {value : Int} (small : value.natAbs ≤ wholeLimit) :
    Nearest value 1 (ofInt value) :=
  nearest_round Nat.one_pos (isFinite_ofInt small)

end Binary64

end Throughput
