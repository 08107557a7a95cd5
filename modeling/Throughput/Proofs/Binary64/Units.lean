import Throughput.Binary64.Basic
import Throughput.Proofs.Binary64.Rounding

/-!
Arithmetic as rounding of signed units. Sums, products and quotients of finite numbers are the
exact result rounded once, so that facts about them are facts about integers.
-/

namespace Throughput

def nearestUnits (numerator : Int) (denominator : Nat) : Int :=
  numerator.sign * (min (roundUnits numerator.natAbs denominator) Magnitude.limit : Nat)

attribute [local irreducible] Magnitude.limit Magnitude.one

theorem nearestUnits_neg (numerator : Int) (denominator : Nat) :
    nearestUnits (-numerator) denominator = -nearestUnits numerator denominator := by
  simp [nearestUnits]

@[simp] theorem nearestUnits_zero (denominator : Nat) : nearestUnits 0 denominator = 0 := by
  simp [nearestUnits]

theorem nearestUnits_natCast (numerator denominator : Nat) (positive : 0 < denominator) :
    nearestUnits numerator denominator =
      (min (roundUnits numerator denominator) Magnitude.limit : Nat) := by
  rcases Nat.eq_zero_or_pos numerator with zero | above
  · subst zero
    have rounded := roundUnits_of_aligned positive aligned_zero
    rw [Nat.zero_mul] at rounded
    simp [rounded]
  · simp [nearestUnits, Int.sign_natCast_of_ne_zero (Nat.ne_of_gt above)]

theorem nearestUnits_nonneg {numerator : Int} (denominator : Nat) (above : 0 ≤ numerator) :
    0 ≤ nearestUnits numerator denominator :=
  Int.mul_nonneg (Int.sign_nonneg_iff.mpr above) (Int.natCast_nonneg _)

theorem nearestUnits_mono {numerator numerator' : Int} {denominator denominator' : Nat}
    (positive : 0 < denominator) (positive' : 0 < denominator')
    (ordered : numerator * denominator' ≤ numerator' * denominator) :
    nearestUnits numerator denominator ≤ nearestUnits numerator' denominator' := by
  have upper {small large : Nat} {first second : Nat} (positive : 0 < first)
      (positive' : 0 < second) (ordered : (small : Int) * second ≤ large * first) :
      nearestUnits small first ≤ nearestUnits large second := by
    have := roundUnits_mono positive positive' (by exact_mod_cast ordered)
    rw [nearestUnits_natCast _ _ positive, nearestUnits_natCast _ _ positive']
    omega
  rcases Int.le_total 0 numerator with above | below
  · have above' : 0 ≤ numerator' := by
      by_contra negative
      have := Int.mul_neg_of_neg_of_pos (Int.not_le.mp negative) (Int.natCast_pos.mpr positive)
      have := Int.mul_nonneg above (Int.natCast_nonneg denominator')
      omega
    lift numerator to Nat using above
    lift numerator' to Nat using above'
    exact upper positive positive' ordered
  · rcases Int.le_total 0 numerator' with above' | below'
    · have := nearestUnits_nonneg denominator' above'
      have opposite := nearestUnits_nonneg denominator (Int.neg_nonneg.mpr below)
      rw [nearestUnits_neg] at opposite
      omega
    · obtain ⟨size, rfl⟩ := Int.exists_eq_neg_ofNat below
      obtain ⟨size', rfl⟩ := Int.exists_eq_neg_ofNat below'
      rw [nearestUnits_neg, nearestUnits_neg]
      apply Int.neg_le_neg
      apply upper positive' positive
      linarith

theorem nearestUnits_of_aligned {units : Int} {denominator : Nat} (positive : 0 < denominator)
    (aligned : Aligned units.natAbs) (bound : units.natAbs ≤ Magnitude.limit) :
    nearestUnits (units * denominator) denominator = units := by
  unfold nearestUnits
  rw [Int.natAbs_mul, Int.natAbs_natCast, roundUnits_of_aligned positive aligned,
    Nat.min_eq_left bound, Int.sign_mul,
    Int.sign_natCast_of_ne_zero (Nat.ne_of_gt positive), Int.mul_one, Int.sign_mul_natAbs]

theorem nearestUnits_le {numerator units : Int} {denominator : Nat} (positive : 0 < denominator)
    (aligned : Aligned units.natAbs) (within : units.natAbs ≤ Magnitude.limit)
    (bound : numerator ≤ units * denominator) : nearestUnits numerator denominator ≤ units := by
  rw [← nearestUnits_of_aligned positive aligned within]
  exact nearestUnits_mono positive positive (Int.mul_le_mul_of_nonneg_right bound
    (Int.natCast_nonneg _))

theorem le_nearestUnits {numerator units : Int} {denominator : Nat} (positive : 0 < denominator)
    (aligned : Aligned units.natAbs) (within : units.natAbs ≤ Magnitude.limit)
    (bound : units * denominator ≤ numerator) : units ≤ nearestUnits numerator denominator := by
  rw [← nearestUnits_of_aligned positive aligned within]
  exact nearestUnits_mono positive positive (Int.mul_le_mul_of_nonneg_right bound
    (Int.natCast_nonneg _))

theorem natAbs_nearestUnits_le {numerator : Int} {denominator bound : Nat}
    (positive : 0 < denominator) (aligned : Aligned bound) (within : bound ≤ Magnitude.limit)
    (below : numerator.natAbs ≤ bound * denominator) :
    (nearestUnits numerator denominator).natAbs ≤ bound := by
  have upper : nearestUnits numerator denominator ≤ bound := by
    apply nearestUnits_le positive (by simpa using aligned) (by simpa using within)
    omega
  have lower : -(bound : Int) ≤ nearestUnits numerator denominator := by
    apply le_nearestUnits positive (by simpa using aligned) (by simpa using within)
    rw [Int.neg_mul]
    omega
  omega

/-- One spacing is enough to move on to another aligned number. -/
theorem lt_nearestUnits_add {units margin : Int} (aligned : Aligned units.natAbs)
    (below : units.natAbs < Magnitude.limit) (enough : spacing units.natAbs ≤ margin) :
    units < nearestUnits (units + margin) 1 := by
  have step := spacing_pos units.natAbs
  have next : units + spacing units.natAbs ≤ nearestUnits (units + margin) 1 := by
    apply le_nearestUnits Nat.one_pos
    · rcases lt_or_ge units 0 with negative | nonnegative
      · have whole : spacing units.natAbs ≤ units.natAbs := Nat.le_of_dvd (by omega) aligned
        rw [show (units + spacing units.natAbs).natAbs = units.natAbs - spacing units.natAbs by
          omega]
        exact aligned.sub_spacing
      · rw [show (units + spacing units.natAbs).natAbs = units.natAbs + spacing units.natAbs by
          omega]
        exact aligned.add_spacing
    · have divides : spacing units.natAbs ∣ Magnitude.limit :=
        Nat.dvd_trans (spacing_dvd_spacing (Nat.le_of_lt below)) aligned_limit
      have room := Nat.le_of_dvd (Nat.sub_pos_of_lt below) (Nat.dvd_sub divides aligned)
      omega
    · omega
  omega

theorem nearestUnits_sub_lt {units margin : Int} (aligned : Aligned units.natAbs)
    (below : units.natAbs < Magnitude.limit) (enough : spacing units.natAbs ≤ margin) :
    nearestUnits (units - margin) 1 < units := by
  rw [← Int.natAbs_neg] at aligned below enough
  have mirrored := lt_nearestUnits_add aligned below enough
  rw [show -units + margin = -(units - margin) by ring, nearestUnits_neg] at mirrored
  omega

theorem one_lt_limit : Magnitude.one < Magnitude.limit := by
  decide +kernel

namespace Binary64

/-- The position of a number in units, with not-a-number at zero. -/
def units (value : Binary64) : Int := value.position.getD 0

@[simp] theorem units_finite (negative : Bool) (magnitude : Magnitude) :
    (finite negative magnitude).units = signedUnits negative magnitude := rfl

theorem natAbs_signedUnits (negative : Bool) (magnitude : Magnitude) :
    (signedUnits negative magnitude).natAbs = magnitude.units := by
  unfold signedUnits
  split <;> simp

theorem signedUnits_not (negative : Bool) (magnitude : Magnitude) :
    signedUnits (!negative) magnitude = -signedUnits negative magnitude := by
  cases negative <;> simp [signedUnits]

theorem exists_of_isFinite {value : Binary64} (finite : value.isFinite = true) :
    ∃ negative magnitude, value = .finite negative magnitude := by
  cases value with
  | finite negative magnitude => exact ⟨negative, magnitude, rfl⟩
  | nan => simp [isFinite] at finite
  | infinite negative => simp [isFinite] at finite

theorem natAbs_units_lt {value : Binary64} (finite : value.isFinite = true) :
    value.units.natAbs < Magnitude.limit := by
  obtain ⟨negative, magnitude, rfl⟩ := exists_of_isFinite finite
  rw [units_finite, natAbs_signedUnits]
  exact magnitude.below

theorem aligned_units {value : Binary64} (finite : value.isFinite = true) :
    Aligned value.units.natAbs := by
  obtain ⟨negative, magnitude, rfl⟩ := exists_of_isFinite finite
  rw [units_finite, natAbs_signedUnits]
  exact magnitude.isAligned

theorem position_of_ne_nan {value : Binary64} (number : value ≠ .nan) :
    value.position = some value.units := by
  cases value with
  | nan => exact absurd rfl number
  | infinite negative => rfl
  | finite negative magnitude => rfl

theorem ne_nan_of_isFinite {value : Binary64} (finite : value.isFinite = true) : value ≠ .nan := by
  rintro rfl
  cases finite

theorem position_of_isFinite {value : Binary64} (finite : value.isFinite = true) :
    value.position = some value.units :=
  position_of_ne_nan (ne_nan_of_isFinite finite)

theorem le_iff_units_of_ne_nan {left right : Binary64} (numberLeft : left ≠ .nan)
    (numberRight : right ≠ .nan) : left.le right = true ↔ left.units ≤ right.units := by
  simp [le, position_of_ne_nan numberLeft, position_of_ne_nan numberRight]

theorem lt_iff_units {left right : Binary64} (finiteLeft : left.isFinite = true)
    (finiteRight : right.isFinite = true) : left.lt right = true ↔ left.units < right.units := by
  simp [lt, position_of_isFinite finiteLeft, position_of_isFinite finiteRight]

theorem le_iff_units {left right : Binary64} (finiteLeft : left.isFinite = true)
    (finiteRight : right.isFinite = true) : left.le right = true ↔ left.units ≤ right.units :=
  le_iff_units_of_ne_nan (ne_nan_of_isFinite finiteLeft) (ne_nan_of_isFinite finiteRight)

theorem eq_iff_units {left right : Binary64} (finiteLeft : left.isFinite = true)
    (finiteRight : right.isFinite = true) : left.eq right = true ↔ left.units = right.units := by
  simp [eq, position_of_isFinite finiteLeft, position_of_isFinite finiteRight]

theorem units_round (negative : Bool) (numerator denominator : Nat) :
    (round negative numerator denominator).units =
      if negative then -((min (roundUnits numerator denominator) Magnitude.limit : Nat) : Int)
      else ((min (roundUnits numerator denominator) Magnitude.limit : Nat) : Int) := by
  unfold round Magnitude.round?
  split
  · rename_i magnitude found
    split at found
    · rename_i below
      cases found
      simp [signedUnits, Nat.min_eq_left (Nat.le_of_lt below)]
    · cases found
  · rename_i found
    split at found
    · cases found
    · rename_i above
      simp [units, position, Nat.min_eq_right (Nat.not_lt.mp above)]

theorem isFinite_round_iff (negative : Bool) (numerator denominator : Nat) :
    (round negative numerator denominator).isFinite = true ↔
      roundUnits numerator denominator < Magnitude.limit := by
  unfold round Magnitude.round?
  by_cases below : roundUnits numerator denominator < Magnitude.limit
  · simp [below, isFinite]
  · simp [below, isFinite]

theorem round_ne_nan (negative : Bool) (numerator denominator : Nat) :
    round negative numerator denominator ≠ .nan := by
  unfold round
  split <;> simp

theorem isFinite_iff_units {value : Binary64} (number : value ≠ .nan) :
    value.isFinite = true ↔ value.units.natAbs < Magnitude.limit := by
  cases value with
  | nan => exact absurd rfl number
  | finite negative magnitude =>
      exact ⟨natAbs_units_lt, fun _ => rfl⟩
  | infinite negative =>
      cases negative <;> simp [isFinite, units, position]

theorem units_round_signed (numerator : Int) (denominator : Nat) (positive : 0 < denominator) :
    (round (decide (numerator < 0)) numerator.natAbs denominator).units =
      nearestUnits numerator denominator := by
  rw [units_round]
  rcases lt_or_ge numerator 0 with below | above
  · simp [below, nearestUnits, Int.sign_eq_neg_one_of_neg below]
  · lift numerator to Nat using above
    rw [nearestUnits_natCast _ _ positive]
    simp

theorem units_round_fraction (numerator : Int) {denominator : Nat} (positive : 0 < denominator) :
    (round (decide (numerator < 0)) (numerator.natAbs * Magnitude.one) denominator).units =
      nearestUnits (numerator * Magnitude.one) denominator := by
  have size : (numerator * Magnitude.one).natAbs = numerator.natAbs * Magnitude.one := by
    rw [Int.natAbs_mul, Int.natAbs_natCast]
  have sign : decide (numerator * Magnitude.one < 0) = decide (numerator < 0) := by
    have unit := Int.natCast_pos.mpr Magnitude.one_pos
    rw [decide_eq_decide]
    exact ⟨fun scaled => Int.neg_of_mul_neg_left scaled unit,
      fun negative => Int.mul_neg_of_neg_of_pos negative unit⟩
  rw [← units_round_signed _ _ positive, size, sign]

theorem magnitude_eq_of_units_eq {negative negative' : Bool} {magnitude magnitude' : Magnitude}
    (same : signedUnits negative magnitude = signedUnits negative' magnitude') :
    magnitude = magnitude' := by
  have size := congrArg Int.natAbs same
  rw [natAbs_signedUnits, natAbs_signedUnits] at size
  cases magnitude
  cases magnitude'
  cases size
  rfl

/-- Only the two zeros differ without a distance between them. -/
theorem eq_of_units_eq {left right : Binary64} (finiteLeft : left.isFinite = true)
    (finiteRight : right.isFinite = true) (same : left.units = right.units)
    (nonzero : left.units ≠ 0) : left = right := by
  obtain ⟨leftSign, left, rfl⟩ := exists_of_isFinite finiteLeft
  obtain ⟨rightSign, right, rfl⟩ := exists_of_isFinite finiteRight
  rw [units_finite, units_finite] at same
  rw [units_finite] at nonzero
  obtain rfl := magnitude_eq_of_units_eq same
  cases leftSign <;> cases rightSign <;> simp [signedUnits] at same nonzero ⊢ <;> omega

/-! Negation, absolute value and the choice between two numbers. -/

theorem neg_finite (negative : Bool) (magnitude : Magnitude) :
    -finite negative magnitude = finite (!negative) magnitude := rfl

theorem neg_infinite (negative : Bool) : -infinite negative = infinite (!negative) := rfl

theorem isFinite_neg (value : Binary64) : (-value).isFinite = value.isFinite := by
  cases value <;> rfl

theorem units_neg (value : Binary64) : (-value).units = -value.units := by
  cases value with
  | nan => rfl
  | finite negative magnitude => rw [neg_finite, units_finite, units_finite, signedUnits_not]
  | infinite negative => cases negative <;> simp [neg_infinite, units, position]

theorem isFinite_abs (value : Binary64) : value.abs.isFinite = value.isFinite := by
  cases value <;> rfl

theorem units_abs {value : Binary64} (finite : value.isFinite = true) :
    value.abs.units = value.units.natAbs := by
  obtain ⟨negative, magnitude, rfl⟩ := exists_of_isFinite finite
  rw [units_finite, natAbs_signedUnits]
  simp [abs, signedUnits]

theorem abs_eq_of_units_eq {left right : Binary64} (finiteLeft : left.isFinite = true)
    (finiteRight : right.isFinite = true) (same : left.units = right.units) :
    left.abs = right.abs := by
  obtain ⟨leftSign, left, rfl⟩ := exists_of_isFinite finiteLeft
  obtain ⟨rightSign, right, rfl⟩ := exists_of_isFinite finiteRight
  rw [units_finite, units_finite] at same
  rw [abs, abs, magnitude_eq_of_units_eq same]

theorem min_eq_ite {left right : Binary64} (finiteLeft : left.isFinite = true)
    (finiteRight : right.isFinite = true) :
    left.min right = if right.units < left.units then right else left := by
  have less := lt_iff_units finiteRight finiteLeft
  obtain ⟨negative, magnitude, rfl⟩ := exists_of_isFinite finiteLeft
  by_cases chosen : right.units < (finite negative magnitude).units
  · rw [if_pos chosen]
    exact if_pos (less.mpr chosen)
  · rw [if_neg chosen]
    exact if_neg (mt less.mp chosen)

theorem max_eq_ite {left right : Binary64} (finiteLeft : left.isFinite = true)
    (finiteRight : right.isFinite = true) :
    left.max right = if left.units < right.units then right else left := by
  have less := lt_iff_units finiteLeft finiteRight
  obtain ⟨negative, magnitude, rfl⟩ := exists_of_isFinite finiteLeft
  by_cases chosen : (finite negative magnitude).units < right.units
  · rw [if_pos chosen]
    exact if_pos (less.mpr chosen)
  · rw [if_neg chosen]
    exact if_neg (mt less.mp chosen)

theorem isFinite_min {left right : Binary64} (finiteLeft : left.isFinite = true)
    (finiteRight : right.isFinite = true) : (left.min right).isFinite = true := by
  rw [min_eq_ite finiteLeft finiteRight]
  split <;> assumption

theorem isFinite_max {left right : Binary64} (finiteLeft : left.isFinite = true)
    (finiteRight : right.isFinite = true) : (left.max right).isFinite = true := by
  rw [max_eq_ite finiteLeft finiteRight]
  split <;> assumption

theorem units_min {left right : Binary64} (finiteLeft : left.isFinite = true)
    (finiteRight : right.isFinite = true) :
    (left.min right).units = min left.units right.units := by
  rw [min_eq_ite finiteLeft finiteRight]
  split <;> omega

theorem units_max {left right : Binary64} (finiteLeft : left.isFinite = true)
    (finiteRight : right.isFinite = true) :
    (left.max right).units = max left.units right.units := by
  rw [max_eq_ite finiteLeft finiteRight]
  split <;> omega

/-! Sums and differences. -/

theorem add_finite (leftSign rightSign : Bool) (left right : Magnitude) :
    finite leftSign left + finite rightSign right =
      let total := signedUnits leftSign left + signedUnits rightSign right
      if total = 0 then finite (leftSign && rightSign) .zero
      else round (decide (total < 0)) total.natAbs 1 := rfl

theorem add_ne_nan {left right : Binary64} (finiteLeft : left.isFinite = true)
    (finiteRight : right.isFinite = true) : left + right ≠ .nan := by
  obtain ⟨leftSign, left, rfl⟩ := exists_of_isFinite finiteLeft
  obtain ⟨rightSign, right, rfl⟩ := exists_of_isFinite finiteRight
  rw [add_finite]
  dsimp only
  split
  · simp
  · exact round_ne_nan _ _ _

theorem units_add {left right : Binary64} (finiteLeft : left.isFinite = true)
    (finiteRight : right.isFinite = true) :
    (left + right).units = nearestUnits (left.units + right.units) 1 := by
  obtain ⟨leftSign, left, rfl⟩ := exists_of_isFinite finiteLeft
  obtain ⟨rightSign, right, rfl⟩ := exists_of_isFinite finiteRight
  rw [add_finite, units_finite, units_finite]
  dsimp only
  split
  · rename_i zero
    rw [zero, nearestUnits_zero, units_finite]
    simp [signedUnits, Magnitude.zero]
  · exact units_round_signed _ 1 Nat.one_pos

theorem isFinite_add_iff {left right : Binary64} (finiteLeft : left.isFinite = true)
    (finiteRight : right.isFinite = true) : (left + right).isFinite = true ↔
      (nearestUnits (left.units + right.units) 1).natAbs < Magnitude.limit := by
  rw [isFinite_iff_units (add_ne_nan finiteLeft finiteRight), units_add finiteLeft finiteRight]

theorem isFinite_add {left right : Binary64} {bound : Nat} (finiteLeft : left.isFinite = true)
    (finiteRight : right.isFinite = true) (aligned : Aligned bound)
    (below : bound < Magnitude.limit) (within : (left.units + right.units).natAbs ≤ bound) :
    (left + right).isFinite = true := by
  rw [isFinite_add_iff finiteLeft finiteRight]
  exact Nat.lt_of_le_of_lt
    (natAbs_nearestUnits_le Nat.one_pos aligned (Nat.le_of_lt below) (by omega)) below

theorem sub_eq_add_neg (left right : Binary64) : left - right = left + -right := rfl

theorem units_sub {left right : Binary64} (finiteLeft : left.isFinite = true)
    (finiteRight : right.isFinite = true) :
    (left - right).units = nearestUnits (left.units - right.units) 1 := by
  rw [sub_eq_add_neg, units_add finiteLeft (by rw [isFinite_neg]; exact finiteRight), units_neg]
  rfl

theorem isFinite_sub_iff {left right : Binary64} (finiteLeft : left.isFinite = true)
    (finiteRight : right.isFinite = true) : (left - right).isFinite = true ↔
      (nearestUnits (left.units - right.units) 1).natAbs < Magnitude.limit := by
  rw [sub_eq_add_neg, isFinite_add_iff finiteLeft ((isFinite_neg right).trans finiteRight),
    units_neg]
  rfl

theorem isFinite_sub {left right : Binary64} {bound : Nat} (finiteLeft : left.isFinite = true)
    (finiteRight : right.isFinite = true) (aligned : Aligned bound)
    (below : bound < Magnitude.limit) (within : (left.units - right.units).natAbs ≤ bound) :
    (left - right).isFinite = true := by
  rw [sub_eq_add_neg]
  apply isFinite_add finiteLeft (by rw [isFinite_neg]; exact finiteRight) aligned below
  rw [units_neg]
  exact within

/-! Products and quotients. -/

theorem mul_finite (leftSign rightSign : Bool) (left right : Magnitude) :
    finite leftSign left * finite rightSign right =
      round (leftSign != rightSign) (left.units * right.units) Magnitude.one := rfl

theorem mul_ne_nan {left right : Binary64} (finiteLeft : left.isFinite = true)
    (finiteRight : right.isFinite = true) : left * right ≠ .nan := by
  obtain ⟨leftSign, left, rfl⟩ := exists_of_isFinite finiteLeft
  obtain ⟨rightSign, right, rfl⟩ := exists_of_isFinite finiteRight
  exact round_ne_nan _ _ _

theorem units_mul {left right : Binary64} (finiteLeft : left.isFinite = true)
    (finiteRight : right.isFinite = true) :
    (left * right).units = nearestUnits (left.units * right.units) Magnitude.one := by
  obtain ⟨leftSign, left, rfl⟩ := exists_of_isFinite finiteLeft
  obtain ⟨rightSign, right, rfl⟩ := exists_of_isFinite finiteRight
  have rounded := nearestUnits_natCast (left.units * right.units) Magnitude.one Magnitude.one_pos
  rw [Nat.cast_mul] at rounded
  rw [mul_finite, units_round, ← rounded, units_finite, units_finite, ← nearestUnits_neg]
  cases leftSign <;> cases rightSign <;> simp [signedUnits]

theorem isFinite_of_not_isInfinite {value : Binary64} (number : value ≠ .nan)
    (bounded : value.isInfinite = false) : value.isFinite = true := by
  cases value with
  | nan => exact absurd rfl number
  | infinite negative => simp [isInfinite] at bounded
  | finite negative magnitude => rfl

theorem div_finite (leftSign rightSign : Bool) (left : Magnitude) {right : Magnitude}
    (nonzero : right.units ≠ 0) :
    finite leftSign left / finite rightSign right =
      round (leftSign != rightSign) (left.units * Magnitude.one) right.units :=
  if_neg nonzero

theorem isFinite_div {left right : Binary64} (finiteLeft : left.isFinite = true)
    (finiteRight : right.isFinite = true) (large : Magnitude.one ≤ right.units.natAbs) :
    (left / right).isFinite = true := by
  obtain ⟨leftSign, left, rfl⟩ := exists_of_isFinite finiteLeft
  obtain ⟨rightSign, right, rfl⟩ := exists_of_isFinite finiteRight
  rw [units_finite, natAbs_signedUnits] at large
  have positive : 0 < right.units := Nat.lt_of_lt_of_le Magnitude.one_pos large
  rw [div_finite _ _ _ (Nat.ne_of_gt positive), isFinite_round_iff]
  exact Nat.lt_of_le_of_lt
    (roundUnits_le positive left.isAligned (Nat.mul_le_mul_left _ large)) left.below

/-! Whole numbers. -/

theorem units_ofNat (value : Nat) :
    (ofNat value).units = nearestUnits (value * Magnitude.one : Nat) 1 := by
  rw [nearestUnits_natCast _ _ Nat.one_pos]
  simp [ofNat, ofRatio, units_round]

def wholeLimit : Nat := (2 ^ 53 - 1) * 2 ^ 971

theorem wholeLimit_units : wholeLimit * Magnitude.one < Magnitude.limit ∧
    Aligned (wholeLimit * Magnitude.one) := by
  decide +kernel

theorem isFinite_round_whole (negative : Bool) {value : Nat} (small : value ≤ wholeLimit) :
    (round negative (value * Magnitude.one) 1).isFinite = true := by
  obtain ⟨below, aligned⟩ := wholeLimit_units
  rw [isFinite_round_iff]
  refine Nat.lt_of_le_of_lt (roundUnits_le Nat.one_pos aligned ?_) below
  rw [Nat.mul_one]
  exact Nat.mul_le_mul_right _ small

theorem isFinite_ofNat {value : Nat} (small : value ≤ wholeLimit) :
    (ofNat value).isFinite = true :=
  isFinite_round_whole false small

theorem isFinite_ofInt {value : Int} (small : value.natAbs ≤ wholeLimit) :
    (ofInt value).isFinite = true :=
  isFinite_round_whole _ small

theorem one_le_units_ofNat {value : Nat} (positive : 0 < value) :
    Magnitude.one ≤ (ofNat value).units.natAbs := by
  have aligned : Aligned Magnitude.one := by
    unfold Magnitude.one
    apply aligned_power
  have rounded : (Magnitude.one : Int) ≤ (ofNat value).units := by
    rw [units_ofNat]
    apply le_nearestUnits Nat.one_pos (by simpa using aligned)
    · rw [Int.natAbs_natCast]
      exact Nat.le_of_lt one_lt_limit
    · have := Nat.mul_le_mul_right Magnitude.one positive
      omega
  omega

end Binary64

end Throughput
