import Throughput.Proofs.Text.ControlSequence

/-! The texts of numbers hold digits, signs, points and letters only, and so nothing that a terminal
takes for a control sequence. -/

namespace Throughput

open ControlSequence (Visible isVisible visible_of_isDigit)

theorem visible_toString (value : Nat) : Visible (toString value) := by
  intro digit member
  rw [Nat.toString_eq_ofList_toDigits, String.toList_ofList] at member
  exact visible_of_isDigit (Nat.isDigit_of_mem_toDigits (by decide) (by decide) member)

namespace Decimal

variable {digits : List Char}

theorem visible_ofList (isDigit : ∀ digit ∈ digits, digit.isDigit = true) :
    Visible (String.ofList digits) := by
  intro digit member
  rw [String.toList_ofList] at member
  exact visible_of_isDigit (isDigit digit member)

theorem visible_zeros (count : Nat) : Visible (zeros count) := by
  refine visible_ofList fun digit member => ?_
  rw [List.eq_of_mem_replicate member]
  rfl

theorem visible_positional (keepsPoint : Bool) (decimal : Decimal) :
    Visible (decimal.positional keepsPoint) := by
  have isDigit : ∀ digit ∈ Nat.toDigits 10 decimal.coefficient, digit.isDigit = true :=
    fun digit => Nat.isDigit_of_mem_toDigits (by decide) (by decide)
  unfold positional
  dsimp only
  split
  · refine ((visible_ofList isDigit).append (visible_zeros _)).append ?_
    split <;> decide
  · split
    · refine ((visible_ofList fun digit member => ?_).append (by decide)).append
        (visible_ofList fun digit member => ?_)
      · exact isDigit digit (List.mem_of_mem_take member)
      · exact isDigit digit (List.mem_of_mem_drop member)
    · exact (Visible.append (by decide) (visible_zeros _)).append (visible_ofList isDigit)

end Decimal

namespace Binary64

theorem visible_signText (negative : Bool) : Visible (signText negative) := by
  cases negative <;> decide

theorem visible_text (value : Binary64) : Visible (value.text .plain) := by
  cases value with
  | nan => decide
  | infinite negative => exact (visible_signText negative).append (by decide)
  | finite negative magnitude =>
      exact (visible_signText negative).append (Decimal.visible_positional _ _)

theorem visible_twoPlaces (value : Binary64) : Visible value.twoPlaces := by
  cases value with
  | nan => decide
  | infinite negative => exact (visible_signText negative).append (by decide)
  | finite negative magnitude =>
      unfold twoPlaces
      dsimp only
      refine ((((visible_signText negative).append (visible_toString _)).append (by decide)).append
        ?_).append (visible_toString _)
      split <;> decide

end Binary64

end Throughput
