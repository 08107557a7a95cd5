import Mathlib.Data.List.Induction
import Throughput.Proofs.Binary64.Order

/-!
Least and greatest numbers of a list: both stand in the list, and they enclose it. What is not a
number is passed over, wherever it stands.
-/

namespace Throughput.Binary64

structure Spans (values : List Binary64) (low high : Binary64) : Prop where
  low_mem : low ∈ values
  high_mem : high ∈ values
  low_le : ∀ value ∈ values, value ≠ .nan → low.le value = true
  le_high : ∀ value ∈ values, value ≠ .nan → value.le high = true

variable {values others : List Binary64} {low high least greatest : Binary64}

theorem Spans.single (value : Binary64) : Spans [value] value value := by
  constructor
  · simp
  · simp
  · intro held member number
    rw [List.mem_singleton.mp member] at number ⊢
    exact le_refl number
  · intro held member number
    rw [List.mem_singleton.mp member] at number ⊢
    exact le_refl number

theorem Spans.widen (bounds : Spans values low high) (value : Binary64) :
    Spans (values ++ [value]) (low.min value) (high.max value) := by
  constructor
  · rcases min_choice low value with kept | replaced
    · simp [kept, bounds.low_mem]
    · simp [replaced]
  · rcases max_choice high value with kept | replaced
    · simp [kept, bounds.high_mem]
    · simp [replaced]
  · intro held member number
    rcases List.mem_append.mp member with earlier | last
    · have below := bounds.low_le held earlier number
      exact le_trans (min_le_left (le_iff.mp below).1 value) below
    · rw [List.mem_singleton.mp last] at number ⊢
      exact min_le_right low number
  · intro held member number
    rcases List.mem_append.mp member with earlier | last
    · have above := bounds.le_high held earlier number
      exact le_trans above (le_max_left (le_iff.mp above).2.1 value)
    · rw [List.mem_singleton.mp last] at number ⊢
      exact le_max_right high number

theorem extremes_concat (values : List Binary64) (value : Binary64) :
    extremes (values ++ [value]) = widen (extremes values) value := by
  simp [extremes]

theorem extremes_eq_none_iff (values : List Binary64) : extremes values = none ↔ values = [] := by
  induction values using List.reverseRecOn with
  | nil => simp [extremes]
  | append_singleton values value _ =>
      rw [extremes_concat]
      cases extremes values <;> simp [widen]

theorem spans_of_extremes (found : extremes values = some (low, high)) : Spans values low high := by
  induction values using List.reverseRecOn generalizing low high with
  | nil => simp [extremes] at found
  | append_singleton values value ih =>
      rw [extremes_concat] at found
      cases earlier : extremes values with
      | none =>
          rw [earlier] at found
          cases found
          rw [(extremes_eq_none_iff values).mp earlier]
          exact Spans.single value
      | some bounds =>
          rw [earlier] at found
          cases found
          exact (ih earlier).widen value

theorem exists_extremes {value : Binary64} (member : value ∈ values) :
    ∃ low high, extremes values = some (low, high) := by
  have found : extremes values ≠ none := by
    rw [ne_eq, extremes_eq_none_iff]
    exact List.ne_nil_of_mem member
  obtain ⟨⟨low, high⟩, found⟩ := Option.ne_none_iff_exists'.mp found
  exact ⟨low, high, found⟩

/-- With a number among the values, both bounds are numbers. -/
theorem Spans.numbers (bounds : Spans values low high)
    (number : ∃ value ∈ values, value ≠ .nan) : low ≠ .nan ∧ high ≠ .nan := by
  obtain ⟨value, member, number⟩ := number
  have below := le_iff.mp (bounds.low_le value member number)
  have above := le_iff.mp (bounds.le_high value member number)
  exact ⟨below.1, above.2.1⟩

/-- Bounds of the same values are numerically the same. -/
theorem Spans.eq_of_mem_iff (bounds : Spans values low high) (other : Spans others least greatest)
    (same : ∀ value, value ∈ values ↔ value ∈ others)
    (number : ∃ value ∈ values, value ≠ .nan) :
    low.eq least = true ∧ high.eq greatest = true := by
  have numbers := bounds.numbers number
  have otherNumbers := other.numbers (by simpa only [same] using number)
  constructor
  · exact eq_of_le_of_le
      (bounds.low_le least ((same least).mpr other.low_mem) otherNumbers.1)
      (other.low_le low ((same low).mp bounds.low_mem) numbers.1)
  · exact eq_of_le_of_le
      (other.le_high high ((same high).mp bounds.high_mem) numbers.2)
      (bounds.le_high greatest ((same greatest).mpr other.high_mem) otherNumbers.2)

structure Encloses (values : List Binary64) (low high : Binary64) : Prop where
  low_mem : low ∈ values
  high_mem : high ∈ values
  low_le : ∀ value ∈ values, low.units ≤ value.units
  le_high : ∀ value ∈ values, value.units ≤ high.units

theorem Spans.encloses (bounds : Spans values low high)
    (finite : ∀ value ∈ values, value.isFinite = true) : Encloses values low high := by
  refine ⟨bounds.low_mem, bounds.high_mem, ?_, ?_⟩
  · intro value member
    exact (le_iff.mp (bounds.low_le value member (ne_nan_of_isFinite (finite value member)))).2.2
  · intro value member
    exact (le_iff.mp (bounds.le_high value member (ne_nan_of_isFinite (finite value member)))).2.2

theorem extremes_encloses (finite : ∀ value ∈ values, value.isFinite = true)
    (found : extremes values = some (low, high)) : Encloses values low high :=
  (spans_of_extremes found).encloses finite

theorem exists_encloses {value : Binary64} (member : value ∈ values)
    (finite : ∀ held ∈ values, held.isFinite = true) : ∃ low high, Encloses values low high := by
  obtain ⟨low, high, found⟩ := exists_extremes member
  exact ⟨low, high, extremes_encloses finite found⟩

end Throughput.Binary64
