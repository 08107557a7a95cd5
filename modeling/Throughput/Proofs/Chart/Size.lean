import Throughput.Chart.Size
import Throughput.Proofs.Result

/-!
Sizes of images that have an extent in both directions. Every size that can be read is one of them.
-/

namespace Throughput

namespace ImageSize

structure Visible (size : ImageSize) : Prop where
  width : 1 ≤ size.width
  height : 1 ≤ size.height

instance (size : ImageSize) : Decidable size.Visible :=
  decidable_of_iff (1 ≤ size.width ∧ 1 ≤ size.height)
    ⟨fun both => ⟨both.1, both.2⟩, fun visible => ⟨visible.width, visible.height⟩⟩

theorem visible_iff {size : ImageSize} : size.Visible ↔ ¬(size.width = 0 ∨ size.height = 0) := by
  constructor
  · rintro ⟨width, height⟩ (zero | zero)
    · rw [zero] at width
      exact absurd width (by decide)
    · rw [zero] at height
      exact absurd height (by decide)
  · intro nonzero
    simp only [not_or, ← UInt32.toNat_inj, UInt32.toNat_zero] at nonzero
    constructor
    · rw [UInt32.le_iff_toNat_le, UInt32.toNat_one]
      omega
    · rw [UInt32.le_iff_toNat_le, UInt32.toNat_one]
      omega

theorem visible_standard : standard.Visible := by decide

theorem visible_of_ofText {text : String} {size : ImageSize} (read : ofText text = .ok size) :
    size.Visible := by
  unfold ofText at read
  split at read
  next => cases read
  next =>
      obtain ⟨width, -, read⟩ := bind_eq_ok_iff.mp read
      obtain ⟨height, -, read⟩ := bind_eq_ok_iff.mp read
      split at read
      next => cases read
      next nonzero =>
          cases read
          exact visible_iff.mpr nonzero

end ImageSize

end Throughput
