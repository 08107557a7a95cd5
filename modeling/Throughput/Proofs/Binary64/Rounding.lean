import Mathlib.Tactic.Linarith
import Mathlib.Tactic.Ring
import Throughput.Binary64.Magnitude

/-!
Rounding of quotients of units. The aligned numbers are the ones that rounding gives back; it
never passes one of them, and it keeps the order of the quotients.
-/

namespace Throughput

theorem div_le_div_of_cross {numerator denominator numerator' denominator' : Nat}
    (positive : 0 < denominator) (positive' : 0 < denominator')
    (ordered : numerator * denominator' ≤ numerator' * denominator) :
    numerator / denominator ≤ numerator' / denominator' := by
  rw [Nat.le_div_iff_mul_le positive']
  refine Nat.le_of_mul_le_mul_right ?_ positive
  calc numerator / denominator * denominator' * denominator
      = numerator / denominator * denominator * denominator' := by ring
    _ ≤ numerator * denominator' := Nat.mul_le_mul_right _ (Nat.div_mul_le_self _ _)
    _ ≤ numerator' * denominator := ordered

theorem le_nearestEven {numerator denominator count : Nat} (positive : 0 < denominator)
    (bound : count * denominator ≤ numerator) : count ≤ nearestEven numerator denominator := by
  have floorBound : count ≤ numerator / denominator := (Nat.le_div_iff_mul_le positive).mpr bound
  unfold nearestEven
  dsimp only
  split <;> omega

theorem nearestEven_le_of_le_mul {numerator denominator count : Nat} (positive : 0 < denominator)
    (bound : numerator ≤ count * denominator) : nearestEven numerator denominator ≤ count := by
  rcases Nat.lt_or_eq_of_le bound with below | exact
  · have floorBound : numerator / denominator < count :=
      (Nat.div_lt_iff_lt_mul positive).mpr below
    exact Nat.le_trans (nearestEven_le _ _) floorBound
  · subst exact
    simp [nearestEven, Nat.mul_div_cancel _ positive, positive]

theorem nearestEven_mono {numerator denominator numerator' denominator' : Nat}
    (positive : 0 < denominator) (positive' : 0 < denominator')
    (ordered : numerator * denominator' ≤ numerator' * denominator) :
    nearestEven numerator denominator ≤ nearestEven numerator' denominator' := by
  rcases Nat.lt_or_eq_of_le (div_le_div_of_cross positive positive' ordered) with below | same
  · exact Nat.le_trans (nearestEven_le _ _) (Nat.le_trans below
      (le_nearestEven positive' (Nat.div_mul_le_self _ _)))
  · have parts := Nat.div_add_mod numerator denominator
    have parts' := Nat.div_add_mod numerator' denominator'
    rw [← same] at parts'
    have remainders : numerator % denominator * denominator' ≤
        numerator' % denominator' * denominator := by
      have expand : numerator * denominator' =
          denominator * (numerator / denominator) * denominator' +
            numerator % denominator * denominator' := by
        rw [← Nat.add_mul, parts]
      have expand' : numerator' * denominator =
          denominator' * (numerator / denominator) * denominator +
            numerator' % denominator' * denominator := by
        rw [← Nat.add_mul, parts']
      have common : denominator * (numerator / denominator) * denominator' =
          denominator' * (numerator / denominator) * denominator := by ring
      omega
    unfold nearestEven
    dsimp only
    rw [← same]
    split
    · split <;> omega
    · rename_i roundsUp
      rw [if_neg]
      rintro (less | ⟨tie, even⟩)
      · apply roundsUp
        left
        by_contra notLess
        nlinarith
      · by_cases less : 2 * (numerator % denominator) < denominator
        · exact roundsUp (Or.inl less)
        · apply roundsUp
          right
          refine ⟨?_, even⟩
          have := Nat.not_lt.mp less
          nlinarith

theorem log2_mono {small large : Nat} (ordered : small ≤ large) : small.log2 ≤ large.log2 := by
  by_cases zero : small = 0
  · simp [zero]
  · have start : 2 ^ small.log2 ≤ small := Nat.log2_self_le zero
    exact (Nat.le_log2 (by omega)).mpr (Nat.le_trans start ordered)

theorem spacing_dvd_spacing {small large : Nat} (ordered : small ≤ large) :
    spacing small ∣ spacing large := by
  have := log2_mono ordered
  exact Nat.pow_dvd_pow 2 (by omega)

theorem spacing_eq_one {units : Nat} (small : units.log2 < 52) : spacing units = 1 := by
  unfold spacing
  rw [show units.log2 - 52 = 0 by omega]

theorem two_pow_mul_spacing {units : Nat} (large : 52 ≤ units.log2) :
    2 ^ 52 * spacing units = 2 ^ units.log2 := by
  change 2 ^ 52 * 2 ^ (units.log2 - 52) = _
  rw [← Nat.pow_add]
  congr 1
  omega

/-- At most 53 significant bits. -/
def Aligned (units : Nat) : Prop := spacing units ∣ units

instance (units : Nat) : Decidable (Aligned units) := inferInstanceAs (Decidable (_ ∣ _))

theorem Magnitude.isAligned (magnitude : Magnitude) : Aligned magnitude.units := magnitude.aligned

theorem aligned_mul_two_pow {count : Nat} (bound : count ≤ 2 ^ 53) (step : Nat) :
    Aligned (count * 2 ^ step) :=
  spacing_dvd_mul bound

theorem aligned_two_pow (exponent : Nat) : Aligned (2 ^ exponent) := by
  simpa using aligned_mul_two_pow (show 1 ≤ 2 ^ 53 by decide) exponent

theorem aligned_power (exponent : Nat) : Aligned (Nat.pow 2 exponent) := aligned_two_pow exponent

theorem aligned_limit : Aligned Magnitude.limit := by
  unfold Magnitude.limit
  apply aligned_power

theorem aligned_zero : Aligned 0 := Nat.dvd_zero _

theorem Magnitude.one_pos : 0 < Magnitude.one := by
  unfold Magnitude.one
  apply power_pos

theorem aligned_spacing (units : Nat) : Aligned (spacing units) := aligned_two_pow _

theorem Aligned.count_lt {units : Nat} (aligned : Aligned units) :
    ∃ count < 2 ^ 53, units = count * spacing units := by
  refine ⟨units / spacing units, div_spacing_lt units, ?_⟩
  rw [Nat.div_mul_cancel aligned]

theorem Aligned.add_spacing {units : Nat} (aligned : Aligned units) :
    Aligned (units + spacing units) := by
  obtain ⟨count, small, parts⟩ := aligned.count_lt
  have next : units + spacing units = (count + 1) * spacing units := by
    rw [Nat.add_mul, ← parts, Nat.one_mul]
  rw [next]
  exact aligned_mul_two_pow (by omega) _

theorem Aligned.sub_spacing {units : Nat} (aligned : Aligned units) :
    Aligned (units - spacing units) := by
  obtain ⟨count, small, parts⟩ := aligned.count_lt
  have previous : units - spacing units = (count - 1) * spacing units := by
    rw [Nat.sub_mul, ← parts, Nat.one_mul]
  rw [previous]
  exact aligned_mul_two_pow (by omega) _

theorem roundUnits_le {numerator denominator units : Nat} (positive : 0 < denominator)
    (aligned : Aligned units) (bound : numerator ≤ units * denominator) :
    roundUnits numerator denominator ≤ units := by
  have floorBound : numerator / denominator ≤ units := by
    refine Nat.le_of_lt_succ ((Nat.div_lt_iff_lt_mul positive).mpr ?_)
    nlinarith
  obtain ⟨count, parts⟩ := Nat.dvd_trans (spacing_dvd_spacing floorBound) aligned
  have step := spacing_pos (numerator / denominator)
  unfold roundUnits
  dsimp only
  generalize spacing (numerator / denominator) = spacing at *
  have steps : nearestEven numerator (denominator * spacing) ≤ count := by
    apply nearestEven_le_of_le_mul (Nat.mul_pos positive step)
    calc numerator ≤ units * denominator := bound
      _ = count * (denominator * spacing) := by rw [parts]; ring
  calc nearestEven numerator (denominator * spacing) * spacing
      ≤ count * spacing := Nat.mul_le_mul_right _ steps
    _ = units := by rw [parts, Nat.mul_comm]

/-- A multiple of the spacing of a quotient stands between an aligned number and the quotient. -/
theorem exists_multiple_between {numerator denominator units : Nat} (positive : 0 < denominator)
    (aligned : Aligned units) (bound : units * denominator ≤ numerator) :
    ∃ count, units ≤ count * spacing (numerator / denominator) ∧
      count * spacing (numerator / denominator) * denominator ≤ numerator := by
  have floorBound : units ≤ numerator / denominator := (Nat.le_div_iff_mul_le positive).mpr bound
  rcases Nat.lt_or_eq_of_le (log2_mono floorBound) with lower | same
  · by_cases fine : (numerator / denominator).log2 < 52
    · rw [spacing_eq_one fine]
      exact ⟨units, by omega, by simpa using bound⟩
    · have nonzero : numerator / denominator ≠ 0 := by
        intro zero
        rw [zero] at lower
        simp at lower
      refine ⟨2 ^ 52, ?_, ?_⟩
      · rw [two_pow_mul_spacing (Nat.not_lt.mp fine)]
        calc units ≤ 2 ^ (units.log2 + 1) := Nat.le_of_lt (lt_two_pow_log2 units)
          _ ≤ 2 ^ (numerator / denominator).log2 := Nat.pow_le_pow_right (by omega) lower
      · rw [two_pow_mul_spacing (Nat.not_lt.mp fine), ← Nat.le_div_iff_mul_le positive]
        exact Nat.log2_self_le nonzero
  · have sameSpacing : spacing units = spacing (numerator / denominator) := by
      unfold spacing
      rw [same]
    obtain ⟨count, parts⟩ := aligned
    rw [sameSpacing, Nat.mul_comm] at parts
    exact ⟨count, Nat.le_of_eq parts, by rw [← parts]; exact bound⟩

theorem le_roundUnits {numerator denominator units : Nat} (positive : 0 < denominator)
    (aligned : Aligned units) (bound : units * denominator ≤ numerator) :
    units ≤ roundUnits numerator denominator := by
  obtain ⟨count, above, below⟩ := exists_multiple_between positive aligned bound
  have step := spacing_pos (numerator / denominator)
  unfold roundUnits
  dsimp only
  refine Nat.le_trans above (Nat.mul_le_mul_right _ ?_)
  apply le_nearestEven (Nat.mul_pos positive step)
  calc count * (denominator * spacing (numerator / denominator))
      = count * spacing (numerator / denominator) * denominator := by ring
    _ ≤ numerator := below

theorem roundUnits_of_aligned {denominator units : Nat} (positive : 0 < denominator)
    (aligned : Aligned units) : roundUnits (units * denominator) denominator = units :=
  Nat.le_antisymm (roundUnits_le positive aligned (Nat.le_refl _))
    (le_roundUnits positive aligned (Nat.le_refl _))

theorem roundUnits_mono {numerator denominator numerator' denominator' : Nat}
    (positive : 0 < denominator) (positive' : 0 < denominator')
    (ordered : numerator * denominator' ≤ numerator' * denominator) :
    roundUnits numerator denominator ≤ roundUnits numerator' denominator' := by
  have floors := div_le_div_of_cross positive positive' ordered
  rcases Nat.lt_or_eq_of_le (log2_mono floors) with lower | same
  · have nonzero : numerator' / denominator' ≠ 0 := by
      intro zero
      rw [zero] at lower
      simp at lower
    have binade := aligned_two_pow (numerator' / denominator').log2
    have below : numerator ≤ 2 ^ (numerator' / denominator').log2 * denominator := by
      have floorBelow : numerator / denominator < 2 ^ (numerator' / denominator').log2 :=
        Nat.lt_of_lt_of_le (lt_two_pow_log2 _) (Nat.pow_le_pow_right (by omega) lower)
      exact Nat.le_of_lt ((Nat.div_lt_iff_lt_mul positive).mp floorBelow)
    have above : 2 ^ (numerator' / denominator').log2 * denominator' ≤ numerator' :=
      (Nat.le_div_iff_mul_le positive').mp (Nat.log2_self_le nonzero)
    exact Nat.le_trans (roundUnits_le positive binade below) (le_roundUnits positive' binade above)
  · have sameSpacing : spacing (numerator / denominator) = spacing (numerator' / denominator') := by
      unfold spacing
      rw [same]
    have step := spacing_pos (numerator' / denominator')
    unfold roundUnits
    dsimp only
    rw [sameSpacing]
    refine Nat.mul_le_mul_right _ (nearestEven_mono (Nat.mul_pos positive step)
      (Nat.mul_pos positive' step) ?_)
    calc numerator * (denominator' * spacing (numerator' / denominator'))
        = numerator * denominator' * spacing (numerator' / denominator') := by ring
      _ ≤ numerator' * denominator * spacing (numerator' / denominator') :=
          Nat.mul_le_mul_right _ ordered
      _ = numerator' * (denominator * spacing (numerator' / denominator')) := by ring

end Throughput
