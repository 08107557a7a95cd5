/-! Magnitudes of finite binary64 numbers, counted in units of 2^-1074, the least positive one.

Every finite magnitude is then a natural number, and rounding an exact quotient means choosing
the nearest natural number with at most 53 significant bits, with ties going to the even one. -/

namespace Throughput

/-- Distance to the next larger magnitude: one unit below 2^53 units, doubling in each binade. -/
def spacing (units : Nat) : Nat := Nat.pow 2 (units.log2 - 52)

namespace Magnitude

/-- The first magnitude that is too large to be finite, 2^1024. -/
def limit : Nat := Nat.pow 2 2098

def one : Nat := Nat.pow 2 1074

end Magnitude

/-- A finite magnitude: below 2^1024 and with at most 53 significant bits. -/
structure Magnitude where
  units : Nat
  below : units < Magnitude.limit
  aligned : spacing units ∣ units
deriving DecidableEq

/-- The natural number nearest to a quotient, the even one when two are equally near. -/
def nearestEven (numerator denominator : Nat) : Nat :=
  let floor := numerator / denominator
  let twice := 2 * (numerator % denominator)
  if twice < denominator ∨ (twice = denominator ∧ floor % 2 = 0) then floor else floor + 1

theorem nearestEven_le (numerator denominator : Nat) :
    nearestEven numerator denominator ≤ numerator / denominator + 1 := by
  unfold nearestEven
  dsimp only
  split <;> omega

def roundUnits (numerator denominator : Nat) : Nat :=
  let step := spacing (numerator / denominator)
  nearestEven numerator (denominator * step) * step

theorem power_pos (exponent : Nat) : 0 < Nat.pow 2 exponent :=
  Nat.two_pow_pos exponent

theorem spacing_pos (units : Nat) : 0 < spacing units :=
  power_pos _

theorem lt_two_pow_log2 (units : Nat) : units < Nat.pow 2 (units.log2 + 1) := by
  by_cases zero : units = 0
  · subst zero
    exact Nat.two_pow_pos _
  · exact (Nat.log2_lt zero).mp (Nat.lt_succ_self _)

theorem div_spacing_lt (units : Nat) : units / spacing units < Nat.pow 2 53 := by
  rw [Nat.div_lt_iff_lt_mul (spacing_pos units)]
  refine Nat.lt_of_lt_of_le (lt_two_pow_log2 units) ?_
  change 2 ^ _ ≤ 2 ^ 53 * 2 ^ _
  rw [← Nat.pow_add]
  exact Nat.pow_le_pow_right (by omega) (by omega)

theorem spacing_dvd_mul {count step : Nat} (bound : count ≤ Nat.pow 2 53) :
    spacing (count * Nat.pow 2 step) ∣ count * Nat.pow 2 step := by
  change count ≤ 2 ^ 53 at bound
  change spacing (count * 2 ^ step) ∣ count * 2 ^ step
  rcases Nat.lt_or_eq_of_le bound with small | full
  · refine Nat.dvd_trans (Nat.pow_dvd_pow 2 ?_) (Nat.dvd_mul_left _ _)
    by_cases zero : count * 2 ^ step = 0
    · simp [zero]
    · have above : count * 2 ^ step < 2 ^ (53 + step) := by
        rw [Nat.pow_add]
        exact (Nat.mul_lt_mul_right (Nat.two_pow_pos _)).mpr small
      have := (Nat.log2_lt zero).mpr above
      omega
  · subst full
    rw [← Nat.pow_add, spacing, Nat.log2_two_pow]
    exact Nat.pow_dvd_pow 2 (by omega)

theorem spacing_dvd_roundUnits (numerator denominator : Nat) :
    spacing (roundUnits numerator denominator) ∣ roundUnits numerator denominator := by
  apply spacing_dvd_mul
  have steps := nearestEven_le numerator (denominator * spacing (numerator / denominator))
  rw [← Nat.div_div_eq_div_mul] at steps
  have := div_spacing_lt (numerator / denominator)
  exact Nat.le_trans steps this

/-- The magnitude nearest to a quotient of units; none when it rounds to 2^1024 or more. -/
def Magnitude.round? (numerator denominator : Nat) : Option Magnitude :=
  if below : roundUnits numerator denominator < Magnitude.limit then
    some ⟨roundUnits numerator denominator, below, spacing_dvd_roundUnits numerator denominator⟩
  else
    none

theorem Magnitude.limit_pos : 0 < Magnitude.limit := by
  unfold Magnitude.limit
  apply power_pos

def Magnitude.zero : Magnitude := ⟨0, Magnitude.limit_pos, Nat.dvd_zero _⟩

end Throughput
