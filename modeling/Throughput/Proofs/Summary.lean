import Mathlib.Data.List.Induction
import Throughput.Proofs.Binary64.Units
import Throughput.Summary

/-! The peak of a summary is the earliest of the highest points. -/

namespace Throughput.RateSummary

open Binary64

structure IsPeak (points : List Point) (peak : Point) : Prop where
  highest : ∀ point ∈ points, point.rate.units ≤ peak.rate.units
  earliest : ∃ before after, points = before ++ peak :: after ∧
    ∀ point ∈ before, point.rate.units < peak.rate.units

theorem IsPeak.mem {points : List Point} {peak : Point} (highest : IsPeak points peak) :
    peak ∈ points := by
  obtain ⟨before, after, rfl, _⟩ := highest.earliest
  simp

theorem IsPeak.keep {points : List Point} {peak point : Point} (highest : IsPeak points peak)
    (lower : point.rate.units ≤ peak.rate.units) : IsPeak (points ++ [point]) peak := by
  obtain ⟨before, after, rfl, below⟩ := highest.earliest
  constructor
  · intro other member
    rcases List.mem_append.mp member with earlier | last
    · exact highest.highest other earlier
    · rw [List.mem_singleton.mp last]
      exact lower
  · exact ⟨before, after ++ [point], by simp, below⟩

theorem IsPeak.replace {points : List Point} {peak point : Point} (highest : IsPeak points peak)
    (higher : peak.rate.units < point.rate.units) : IsPeak (points ++ [point]) point := by
  have below (other : Point) (member : other ∈ points) : other.rate.units < point.rate.units := by
    have := highest.highest other member
    omega
  constructor
  · intro other member
    rcases List.mem_append.mp member with earlier | last
    · exact Int.le_of_lt (below other earlier)
    · rw [List.mem_singleton.mp last]
  · exact ⟨points, [], rfl, below⟩

theorem peakOf_concat (points : List Point) (point : Point) :
    peakOf (points ++ [point]) = higher (peakOf points) point := by
  simp [peakOf]

theorem peakOf_eq_none_iff (points : List Point) : peakOf points = none ↔ points = [] := by
  induction points using List.reverseRecOn with
  | nil => simp [peakOf]
  | append_singleton points point _ =>
      rw [peakOf_concat]
      cases peakOf points with
      | none => simp [higher]
      | some best =>
          simp only [higher]
          split <;> simp

theorem isPeak_peakOf {points : List Point} {peak : Point}
    (number : ∀ point ∈ points, point.rate ≠ .nan) (found : peakOf points = some peak) :
    IsPeak points peak := by
  induction points using List.reverseRecOn generalizing peak with
  | nil => simp [peakOf] at found
  | append_singleton points point ih =>
      rw [peakOf_concat] at found
      cases earlier : peakOf points with
      | none =>
          rw [earlier] at found
          cases found
          rw [(peakOf_eq_none_iff points).mp earlier]
          exact ⟨by simp, [], [], rfl, by simp⟩
      | some best =>
          rw [earlier] at found
          have highest := ih (fun other member => number other (by simp [member])) earlier
          have compare := le_iff_units_of_ne_nan (number point (by simp))
            (number best (by simp [highest.mem]))
          simp only [higher] at found
          split at found
          · rename_i lower
            cases found
            exact highest.keep (compare.mp lower)
          · rename_i notLower
            cases found
            exact highest.replace (Int.not_le.mp (mt compare.mpr notLower))

/-- Among finite rates the peak is the first point that no other one surpasses. -/
theorem peakOf_eq_find? {points : List Point}
    (finite : ∀ point ∈ points, point.rate.isFinite = true) :
    peakOf points = points.find? fun point => points.all fun other => other.rate.le point.rate := by
  have surpassed (point : Point) (member : point ∈ points) :
      (points.all fun other => other.rate.le point.rate) = true ↔
        ∀ other ∈ points, other.rate.units ≤ point.rate.units := by
    rw [List.all_eq_true]
    exact forall₂_congr fun other otherMember =>
      le_iff_units (finite other otherMember) (finite point member)
  cases found : peakOf points with
  | none => simp [(peakOf_eq_none_iff points).mp found]
  | some peak =>
      have highest := isPeak_peakOf
        (fun point member => ne_nan_of_isFinite (finite point member)) found
      obtain ⟨before, after, parts, below⟩ := highest.earliest
      symm
      rw [List.find?_eq_some_iff_append]
      refine ⟨(surpassed peak highest.mem).mpr highest.highest, before, after, parts, ?_⟩
      intro point member
      rw [Bool.not_eq_true', Bool.eq_false_iff]
      intro unsurpassed
      have := (surpassed point (by simp [parts, member])).mp unsurpassed peak highest.mem
      have := below point member
      omega

end Throughput.RateSummary
