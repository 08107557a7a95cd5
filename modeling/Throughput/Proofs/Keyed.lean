import Mathlib.Data.List.Nodup

/-! Settings under keys, where no key stands twice. -/

namespace Throughput.Keyed

variable {σ α β κ : Type} {key : α → κ}

/-- Settings under distinct keys can be applied in any order, when any two of them can. -/
theorem foldl_eq_of_perm {apply : σ → α → σ} {first second : List α} (permuted : first.Perm second)
    (distinct : (first.map key).Nodup)
    (comm : ∀ state one other, key one ≠ key other →
      apply (apply state one) other = apply (apply state other) one) (state : σ) :
    first.foldl apply state = second.foldl apply state := by
  refine permuted.foldl_eq' (fun one member other otherMember state => ?_) state
  by_cases same : key one = key other
  · rw [List.inj_on_of_nodup_map distinct member otherMember same]
  · exact comm state one other same

theorem keys_toList (setting : β → α) {name : κ} (about : ∀ held, key (setting held) = name)
    (value : Option β) : ((value.map setting).toList.map key).Sublist [name] := by
  cases value with
  | none => exact List.nil_sublist _
  | some held => simp [about]

end Throughput.Keyed
