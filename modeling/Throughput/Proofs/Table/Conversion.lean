import Throughput.Proofs.Binary64.Mebibytes

/-!
The conversion of a column. Each cell is converted where it stands, so that a part of the rates is
the rates of a part, and the order of the byte rates is the order of the rates.
-/

namespace Throughput

namespace Column

theorem length_toMebibytes (column : Column) : column.toMebibytes.length = column.length :=
  List.length_map _

theorem getElem?_toMebibytes_none_iff (column : Column) (row : Nat) :
    column.toMebibytes[row]? = some none ↔ column[row]? = some none := by
  simp [toMebibytes, List.getElem?_map]

theorem getElem?_toMebibytes_some {column : Column} {row : Nat} {bytes : Binary64}
    (found : column[row]? = some (some bytes)) :
    column.toMebibytes[row]? = some (some bytes.toMebibytes) := by
  rw [toMebibytes, List.getElem?_map, found]
  rfl

theorem toMebibytes_slice (column : Column) (offset length : Nat) :
    (column.slice offset length).toMebibytes = column.toMebibytes.slice offset length := by
  rw [slice, slice, toMebibytes, toMebibytes, List.map_take, List.map_drop]

structure RatesOf (column rates : Column) : Prop where
  length : rates.length = column.length
  gaps : ∀ row : Nat, rates[row]? = some none ↔ column[row]? = some none
  cells : ∀ (row : Nat) bytes, column[row]? = some (some bytes) →
    rates[row]? = some (some bytes.toMebibytes)

theorem ratesOf_toMebibytes (column : Column) : column.RatesOf column.toMebibytes where
  length := column.length_toMebibytes
  gaps := column.getElem?_toMebibytes_none_iff
  cells := fun _ _ => getElem?_toMebibytes_some

end Column

/-- A column is converted cell by cell, in whole or in part. The order is kept, and byte rates that
are zero, infinite or at least 2^-1002 in size come back as they were when they are multiplied
again, so that different ones among them have different rates. -/
theorem conversion_loses_nothing :
    (∀ column : Column, column.RatesOf column.toMebibytes ∧
      ∀ offset length, (column.slice offset length).toMebibytes =
        column.toMebibytes.slice offset length) ∧
    (∀ bytes other : Binary64, bytes.le other = true →
      bytes.toMebibytes.le other.toMebibytes = true) ∧
    (∀ bytes : Binary64, bytes.Restorable → bytes.toMebibytes * .ofNat 1048576 = bytes) ∧
    ∀ bytes other : Binary64, bytes.Restorable → other.Restorable →
      (bytes ≠ other → bytes.toMebibytes ≠ other.toMebibytes) ∧
      (bytes.eq other = false → bytes.toMebibytes.eq other.toMebibytes = false) := by
  refine ⟨?_, ?_, ?_, ?_⟩
  · exact fun column => ⟨column.ratesOf_toMebibytes, column.toMebibytes_slice⟩
  · exact fun bytes other => Binary64.toMebibytes_le
  · exact fun bytes restorable => restorable.restored
  · intro bytes other restorable otherRestorable
    constructor
    · intro different same
      rw [← restorable.restored, same, otherRestorable.restored] at different
      exact different rfl
    · intro different
      rw [Bool.eq_false_iff]
      intro same
      rw [restorable.eq_of_toMebibytes_eq otherRestorable same] at different
      cases different

def nextExact : Binary64 := .ofRatio (Nat.pow 2 52 + 1) (Nat.pow 2 1054)

theorem leastExact_converted :
    (Binary64.leastExact.Restorable ∧ nextExact.Restorable ∧
      Binary64.leastExact.le nextExact = true ∧ Binary64.leastExact.eq nextExact = false) ∧
    Binary64.leastExact.toMebibytes.le nextExact.toMebibytes = true ∧
    Binary64.leastExact.toMebibytes.eq nextExact.toMebibytes = false ∧
    Binary64.leastExact.toMebibytes * .ofNat 1048576 = .leastExact := by
  have least : Binary64.leastExact.Restorable := by decide +kernel
  have next : nextExact.Restorable := by decide +kernel
  have ordered : Binary64.leastExact.le nextExact = true := by decide +kernel
  have different : Binary64.leastExact.eq nextExact = false := by decide +kernel
  obtain ⟨-, keepsOrder, restores, keepsApart⟩ := conversion_loses_nothing
  exact ⟨⟨least, next, ordered, different⟩, keepsOrder _ _ ordered,
    (keepsApart _ _ least next).2 different, restores _ least⟩

end Throughput
