import Throughput.Proofs.Binary64.Units

/-!
The order of the numbers. Not-a-number stands outside of it; everything else is compared by its
position, which only the two zeros share.
-/

namespace Throughput.Binary64

attribute [local irreducible] Magnitude.limit Magnitude.one

variable {left right first second third value : Binary64}

theorem position_nan : position .nan = none := rfl

theorem le_iff :
    left.le right = true ↔ left ≠ .nan ∧ right ≠ .nan ∧ left.units ≤ right.units := by
  by_cases numberLeft : left = .nan
  · simp [le, position_nan, numberLeft]
  · by_cases numberRight : right = .nan
    · simp [le, position_nan, numberRight]
    · simp [le_iff_units_of_ne_nan numberLeft numberRight, numberLeft, numberRight]

theorem lt_iff :
    left.lt right = true ↔ left ≠ .nan ∧ right ≠ .nan ∧ left.units < right.units := by
  by_cases numberLeft : left = .nan
  · simp [lt, position_nan, numberLeft]
  · by_cases numberRight : right = .nan
    · simp [lt, position_nan, numberRight]
    · simp [lt, position_of_ne_nan numberLeft, position_of_ne_nan numberRight, numberLeft,
        numberRight]

theorem eq_iff :
    left.eq right = true ↔ left ≠ .nan ∧ right ≠ .nan ∧ left.units = right.units := by
  by_cases numberLeft : left = .nan
  · simp [eq, position_nan, numberLeft]
  · by_cases numberRight : right = .nan
    · simp [eq, position_nan, numberRight]
    · simp [eq, position_of_ne_nan numberLeft, position_of_ne_nan numberRight, numberLeft,
        numberRight]

theorem le_refl (number : value ≠ .nan) : value.le value = true :=
  le_iff.mpr ⟨number, number, Int.le_refl _⟩

theorem le_trans (lower : first.le second = true) (upper : second.le third = true) :
    first.le third = true := by
  rw [le_iff] at lower upper ⊢
  exact ⟨lower.1, upper.2.1, Int.le_trans lower.2.2 upper.2.2⟩

theorem le_of_lt (less : left.lt right = true) : left.le right = true := by
  rw [lt_iff] at less
  exact le_iff.mpr ⟨less.1, less.2.1, Int.le_of_lt less.2.2⟩

theorem le_of_not_lt (numberLeft : left ≠ .nan) (numberRight : right ≠ .nan)
    (notLess : ¬right.lt left = true) : left.le right = true := by
  rw [lt_iff] at notLess
  refine le_iff.mpr ⟨numberLeft, numberRight, ?_⟩
  by_contra above
  exact notLess ⟨numberRight, numberLeft, Int.not_le.mp above⟩

theorem eq_of_le_of_le (lower : left.le right = true) (upper : right.le left = true) :
    left.eq right = true := by
  rw [le_iff] at lower upper
  exact eq_iff.mpr ⟨lower.1, lower.2.1, Int.le_antisymm lower.2.2 upper.2.2⟩

/-! The smaller and the larger of two numbers; either of them may be not-a-number. -/

theorem min_of_number (number : left ≠ .nan) (right : Binary64) :
    left.min right = if right.lt left then right else left := by
  cases left with
  | nan => exact absurd rfl number
  | infinite negative => rfl
  | finite negative magnitude => rfl

theorem max_of_number (number : left ≠ .nan) (right : Binary64) :
    left.max right = if left.lt right then right else left := by
  cases left with
  | nan => exact absurd rfl number
  | infinite negative => rfl
  | finite negative magnitude => rfl

theorem min_choice (left right : Binary64) : left.min right = left ∨ left.min right = right := by
  by_cases number : left = .nan
  · right
    rw [number]
    rfl
  · rw [min_of_number number]
    split <;> simp

theorem max_choice (left right : Binary64) : left.max right = left ∨ left.max right = right := by
  by_cases number : left = .nan
  · right
    rw [number]
    rfl
  · rw [max_of_number number]
    split <;> simp

theorem min_le_left (number : left ≠ .nan) (right : Binary64) :
    (left.min right).le left = true := by
  rw [min_of_number number]
  split
  · exact le_of_lt ‹_›
  · exact le_refl number

theorem min_le_right (left : Binary64) (number : right ≠ .nan) :
    (left.min right).le right = true := by
  by_cases numberLeft : left = .nan
  · rw [numberLeft]
    exact le_refl number
  · rw [min_of_number numberLeft]
    split
    · exact le_refl number
    · exact le_of_not_lt numberLeft number ‹_›

theorem le_max_left (number : left ≠ .nan) (right : Binary64) :
    left.le (left.max right) = true := by
  rw [max_of_number number]
  split
  · exact le_of_lt ‹_›
  · exact le_refl number

theorem le_max_right (left : Binary64) (number : right ≠ .nan) :
    right.le (left.max right) = true := by
  by_cases numberLeft : left = .nan
  · rw [numberLeft]
    exact le_refl number
  · rw [max_of_number numberLeft]
    split
    · exact le_refl number
    · exact le_of_not_lt number numberLeft ‹_›

end Throughput.Binary64
