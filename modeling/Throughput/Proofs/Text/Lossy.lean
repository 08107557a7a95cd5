import Mathlib.Algebra.Group.Nat.Defs
import Throughput.Proofs.Text.WellFormed

/-!
Reading bytes that need not be well-formed. An ASCII character of the text was a byte of its own, so
that no separator comes out of other bytes; and no byte is lost without a trace.
-/

namespace Throughput.Utf8

theorem toNat_ofNat_of_ascii {code : Nat} (ascii : code < 0x80) :
    (Char.ofNat code).toNat = code := by
  rw [Char.ofNat, dif_pos (Or.inl (by omega))]
  rfl

/-- A code from 0x80 on is not the code of an ASCII character; where it is not the code of a
character at all, the null character stands for it. -/
theorem ofNat_eq_null_of_ascii {code : Nat} (long : 0x80 ≤ code)
    (ascii : (Char.ofNat code).toNat < 0x80) : Char.ofNat code = '\x00' := by
  by_cases valid : code.isValidChar
  · rw [Char.ofNat, dif_pos valid] at ascii
    exact absurd ascii (Nat.not_lt.mpr long)
  · rw [Char.ofNat, dif_neg valid]
    rfl

structure Pending.Long (pending : Pending) : Prop where
  owed : 1 ≤ pending.owed
  low : 0x80 ≤ pending.low
  least : 0x80 ≤ (pending.code * 64 + (pending.low - 0x80)) * 64 ^ (pending.owed - 1)

def Opening.Fits (byte : UInt8) : Opening → Prop
  | .complete value => value.toNat < 0x80 → value ≠ '\x00' → value.toNat = byte.toNat
  | .pending rest => rest.Long
  | .stray => True

theorem opening_fits (byte : UInt8) : (opening byte).Fits byte := by
  unfold opening
  dsimp only
  split
  next ascii => exact fun _ _ => toNat_ofNat_of_ascii ascii
  split
  next => trivial
  split
  next => exact ⟨Nat.le_refl _, Nat.le_refl _, by dsimp only; omega⟩
  split
  next => exact ⟨by simp, by simp, by simp⟩
  split
  next => exact ⟨by simp, by simp, by simp⟩
  split
  next => exact ⟨by simp, by simp, by dsimp only; omega⟩
  split
  next => exact ⟨by simp, by simp, by simp⟩
  split
  next => exact ⟨by simp, by simp, by dsimp only; omega⟩
  split
  next => exact ⟨by simp, by simp, by simp⟩
  next => trivial

theorem extend?_fits {pending : Pending} {byte : UInt8} {extended : Opening}
    (long : pending.Long) (extends? : pending.extend? byte = some extended) :
    extended.Fits byte := by
  -- The least byte that can follow bounds what a byte adds to the code from below.
  have owed := long.owed
  have least := long.least
  unfold Pending.extend? at extends?
  dsimp only at extends?
  split at extends?
  next bounds =>
      have grown : pending.code * 64 + (pending.low - 0x80) ≤
          pending.code * 64 + (byte.toNat - 0x80) := by
        omega
      split at extends?
      next last =>
          cases extends?
          rw [last, Nat.sub_self, Nat.pow_zero, Nat.mul_one] at least
          intro ascii notNull
          exact absurd (ofNat_eq_null_of_ascii (Nat.le_trans least grown) ascii) notNull
      next more =>
          cases extends?
          refine ⟨by dsimp only; omega, Nat.le_refl _, ?_⟩
          have enlarged := Nat.le_trans least (Nat.mul_le_mul_right (64 ^ (pending.owed - 1)) grown)
          have places : pending.owed - 1 = pending.owed - 1 - 1 + 1 := by omega
          rw [places, Nat.pow_succ'] at enlarged
          simpa [Nat.mul_assoc] using enlarged
  next => cases extends?

structure Told (byte : UInt8) (told : List Piece × Option Pending) : Prop where
  characters : ∀ value, .character value ∈ told.1 → value.toNat < 0x80 → value ≠ '\x00' →
    value.toNat = byte.toNat
  pending : ∀ rest ∈ told.2, rest.Long

theorem Opening.Fits.settle {byte : UInt8} {opening : Opening} (fits : opening.Fits byte) :
    Told byte (opening.settle byte) := by
  cases opening with
  | complete value =>
      refine ⟨fun other member => ?_, nofun⟩
      cases List.mem_singleton.mp member
      exact fits
  | pending rest =>
      refine ⟨nofun, fun other member => ?_⟩
      cases member
      exact fits
  | stray =>
      refine ⟨fun value member => ?_, nofun⟩
      cases List.mem_singleton.mp member

theorem told_step {state : Option Pending} (long : ∀ pending ∈ state, pending.Long)
    (byte : UInt8) : Told byte (step state byte) := by
  cases state with
  | none => exact (opening_fits byte).settle
  | some pending =>
      unfold step
      dsimp only
      split
      next extended extends? => exact (extend?_fits (long pending rfl) extends?).settle
      next =>
          have told := (opening_fits byte).settle
          refine ⟨fun value member => ?_, told.pending⟩
          rcases List.mem_cons.mp member with broken | member
          · cases broken
          · exact told.characters value member

theorem piecesFrom_cons (state : Option Pending) (byte : UInt8) (rest : List UInt8) :
    piecesFrom state (byte :: rest) = (step state byte).1 ++ piecesFrom (step state byte).2 rest := by
  cases state <;> rfl

/-- An ASCII character of the text, unless it is the null character, was a byte. -/
theorem exists_byte_of_mem_piecesFrom {bytes : List UInt8} {state : Option Pending}
    (long : ∀ pending ∈ state, pending.Long) {value : Char}
    (member : .character value ∈ piecesFrom state bytes) (ascii : value.toNat < 0x80)
    (notNull : value ≠ '\x00') : ∃ byte ∈ bytes, byte.toNat = value.toNat := by
  induction bytes generalizing state with
  | nil =>
      cases state with
      | none => cases member
      | some pending => cases List.mem_singleton.mp member
  | cons byte rest ih =>
      have told := told_step long byte
      rw [piecesFrom_cons] at member
      rcases List.mem_append.mp member with now | later
      · exact ⟨byte, List.mem_cons_self, (told.characters value now ascii notNull).symm⟩
      · obtain ⟨other, found, same⟩ := ih told.pending later
        exact ⟨other, List.mem_cons_of_mem _ found, same⟩

theorem exists_byte_of_mem_lossy {bytes : List UInt8} {value : Char}
    (member : value ∈ (lossy bytes).toList) (ascii : value.toNat < 0x80)
    (notNull : value ≠ '\x00') : ∃ byte ∈ bytes, byte.toNat = value.toNat := by
  rw [lossy, String.toList_ofList] at member
  obtain ⟨piece, listed, shown⟩ := List.mem_map.mp member
  cases piece with
  | character =>
      cases shown
      exact exists_byte_of_mem_piecesFrom (by simp) listed ascii notNull
  | stray =>
      obtain rfl : '\uFFFD' = value := shown
      exact absurd ascii (by decide)

theorem piecesFrom_ne_nil_of_pending (bytes : List UInt8) (pending : Pending) :
    piecesFrom (some pending) bytes ≠ [] := by
  induction bytes generalizing pending with
  | nil => exact List.cons_ne_nil _ _
  | cons byte rest ih =>
      unfold piecesFrom step
      dsimp only
      split
      next extended extends? =>
          cases extended with
          | complete | stray => exact List.cons_ne_nil _ _
          | pending next => exact ih next
      next => exact List.cons_ne_nil _ _

theorem lossy_ne_empty {bytes : List UInt8} (nonempty : bytes ≠ []) : lossy bytes ≠ "" := by
  obtain ⟨byte, rest, rfl⟩ := List.exists_cons_of_ne_nil nonempty
  have pieces : piecesFrom none (byte :: rest) ≠ [] := by
    unfold piecesFrom step
    dsimp only
    cases opening byte with
    | complete | stray => exact List.cons_ne_nil _ _
    | pending next => exact piecesFrom_ne_nil_of_pending rest next
  intro empty
  have none := congrArg String.toList empty
  rw [lossy, String.toList_ofList] at none
  exact pieces (List.map_eq_nil_iff.mp none)

/-- A byte below 0x80 in the encoding of a text is a character of the text. -/
theorem exists_character_of_mem_bytes {text : String} {byte : UInt8} (member : byte ∈ bytes text)
    (ascii : byte < 0x80) : ∃ value ∈ text.toList, value.toNat = byte.toNat := by
  rw [bytes_eq_encode] at member
  obtain ⟨value, listed, encoded⟩ := List.mem_flatMap.mp member
  by_cases short : value.toNat < 0x80
  · rw [utf8EncodeChar_ascii short, List.mem_singleton] at encoded
    refine ⟨value, listed, ?_⟩
    rw [encoded, UInt8.toNat_ofNat_of_lt']
    exact Nat.lt_trans short (by decide)
  · exact absurd ascii (not_lt_of_mem_utf8EncodeChar short byte encoded)

/-- An ASCII byte of the text that bytes are read as, other than the null byte, is one of them. -/
theorem mem_of_mem_bytes_lossy {content : List UInt8} {byte : UInt8}
    (member : byte ∈ bytes (lossy content)) (ascii : byte < 0x80) (notNull : byte ≠ 0) :
    byte ∈ content := by
  obtain ⟨value, listed, same⟩ := exists_character_of_mem_bytes member ascii
  have short : value.toNat < 0x80 := same ▸ UInt8.lt_iff_toNat_lt.mp ascii
  have visible : value ≠ '\x00' := by
    rintro rfl
    exact notNull (UInt8.toNat_inj.mp same.symm)
  obtain ⟨other, found, equal⟩ := exists_byte_of_mem_lossy listed short visible
  rwa [← UInt8.toNat_inj.mp (equal.trans same)]

end Throughput.Utf8
