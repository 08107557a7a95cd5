import Throughput.Proofs.Binary64.Units
import Throughput.Proofs.Json.Readers

/-!
No number of an accepted log is infinite or not-a-number. A literal is turned into a number by
operations that stay in range or are checked, and whatever holds of the values that a reader of
parts gives, holds of the parts of the lists and objects that are read with it.
-/

namespace Throughput.Json

open Binary64

attribute [local irreducible] Magnitude.limit Magnitude.one

def Value.InRange : Value → Prop
  | .integer value => value.natAbs < UInt64.size
  | .float value => value.isFinite = true
  | _ => True

namespace Literal

theorem size_le_wholeLimit : UInt64.size ≤ wholeLimit := by
  decide +kernel

theorem gather_lt {digits : List Nat} {significand : Nat} (small : significand < UInt64.size) :
    (gather significand digits).1 < UInt64.size := by
  induction digits generalizing significand with
  | nil => exact small
  | cons digit rest ih =>
      unfold gather
      split
      · rename_i fits
        exact ih fits
      · exact small

theorem scaled_lt (literal : Literal) : literal.scaled.1 < UInt64.size := by
  unfold scaled
  exact gather_lt (gather_lt (by decide))

theorem power_le_wholeLimit : 10 ^ powerLimit ≤ wholeLimit := by
  decide +kernel

theorem isFinite_powerOfTen {exponent : Nat} (small : exponent ≤ powerLimit) :
    (powerOfTen exponent).isFinite = true := by
  have power : 10 ^ exponent ≤ wholeLimit :=
    Nat.le_trans (Nat.pow_le_pow_right (by decide) small) power_le_wholeLimit
  exact isFinite_ofNat power

theorem one_le_powerOfTen (exponent : Nat) :
    Magnitude.one ≤ (powerOfTen exponent).units.natAbs :=
  one_le_units_ofNat (Nat.pow_pos (by decide))

theorem isFinite_shrink {value : Binary64} (finite : value.isFinite = true) (exponent : Nat) :
    (shrink value exponent).isFinite = true := by
  fun_induction shrink value exponent with
  | case1 value exponent small =>
      exact isFinite_div finite (isFinite_powerOfTen small) (one_le_powerOfTen exponent)
  | case2 value exponent large zero => exact finite
  | case3 value exponent large nonzero ih =>
      exact ih (isFinite_div finite (isFinite_powerOfTen (Nat.le_refl _)) (one_le_powerOfTen _))

theorem isFinite_grow? {value result : Binary64} {exponent : Nat}
    (finite : value.isFinite = true) (grown : grow? value exponent = some result) :
    result.isFinite = true := by
  unfold grow? at grown
  split at grown
  · rename_i small
    dsimp only at grown
    split at grown
    · cases grown
    · rename_i bounded
      cases grown
      exact isFinite_of_not_isInfinite (mul_ne_nan finite (isFinite_powerOfTen small))
        (Bool.not_eq_true _ ▸ bounded)
  · split at grown
    · cases grown
      exact finite
    · cases grown

theorem isFinite_scale? {value result : Binary64} {exponent : Int}
    (finite : value.isFinite = true) (moved : scale? value exponent = some result) :
    result.isFinite = true := by
  cases exponent with
  | ofNat exponent => exact isFinite_grow? finite moved
  | negSucc exponent =>
      cases moved
      exact isFinite_shrink finite _

theorem isFinite_signed {value : Binary64} (finite : value.isFinite = true) (negative : Bool) :
    (signed negative value).isFinite = true := by
  unfold signed
  split
  · rw [isFinite_neg]
    exact finite
  · exact finite

theorem isFinite_float? {literal : Literal} {value : Binary64}
    (read : literal.float? = some value) : value.isFinite = true := by
  have significand : (Binary64.ofNat literal.scaled.1).isFinite = true :=
    isFinite_ofNat (Nat.le_trans (Nat.le_of_lt (scaled_lt literal)) size_le_wholeLimit)
  unfold float? at read
  dsimp only at read
  split at read
  · obtain ⟨moved, scaled, rfl⟩ := Option.map_eq_some_iff.mp read
    exact isFinite_signed (isFinite_scale? significand scaled) _
  · split at read
    · split at read
      · cases read
        exact isFinite_signed rfl _
      · cases read
    · obtain ⟨moved, scaled, rfl⟩ := Option.map_eq_some_iff.mp read
      exact isFinite_signed (isFinite_scale? significand scaled) _

theorem integer?_lt {literal : Literal} {value : Int} (read : literal.integer? = some value) :
    value.natAbs < UInt64.size := by
  have fits : 0x8000000000000000 < UInt64.size := by decide
  unfold integer? at read
  dsimp only at read
  split at read
  · cases read
  · split at read
    · split at read
      · cases read
        omega
      · cases read
    · split at read
      · cases read
        omega
      · cases read

theorem value?_inRange {literal : Literal} {value : Value} (read : literal.value? = some value) :
    value.InRange := by
  unfold value? at read
  split at read
  · rename_i integer whole
    cases read
    exact integer?_lt whole
  · obtain ⟨number, float, rfl⟩ := Option.map_eq_some_iff.mp read
    exact isFinite_float? float

end Literal

/-! What holds of everything that a reader gives. -/

section Yields

variable {α : Type} {property : α → Prop}

def Yields (reader : Reader α) (property : α → Prop) : Prop :=
  ∀ ⦃input value rest⦄, reader input = .ok (value, rest) → property value

theorem yields_readMoreItems {item : Reader α} (each : Yields item property)
    (budget : List UInt8) :
    Yields (readMoreItems item budget) fun values => ∀ value ∈ values, property value := by
  induction budget with
  | nil =>
      intro input values rest read
      simp [readMoreItems, fail] at read
  | cons _ budget ih =>
      intro input values rest read
      rcases readMoreItems_ok_iff.mp read with ⟨-, rfl⟩ |
        ⟨_, _, _, first, middle, others, -, -, -, readFirst, readOthers, rfl⟩
      · simp
      · exact List.forall_mem_cons.mpr ⟨each readFirst, ih readOthers⟩

theorem yields_readItems {item : Reader α} (each : Yields item property) :
    Yields (readItems item) fun values => ∀ value ∈ values, property value := by
  intro input values rest read
  rcases readItems_ok_iff.mp read with ⟨-, rfl⟩ |
    ⟨_, _, first, middle, others, -, -, readFirst, readOthers, rfl⟩
  · simp
  · exact List.forall_mem_cons.mpr ⟨each readFirst, yields_readMoreItems each _ readOthers⟩

variable {property : Value → Prop} {origin : Origin} {value : Reader Value}

theorem yields_readMember (each : Yields value property) :
    Yields (readMember origin value) fun member => property member.2 := by
  intro input member rest read
  obtain ⟨_, _, -, -, readHeld⟩ := readMember_ok_iff.mp read
  exact each readHeld

theorem yields_readMoreMembers (each : Yields value property) (budget : List UInt8) :
    Yields (readMoreMembers origin value budget) fun members =>
      ∀ member ∈ members, property member.2 := by
  induction budget with
  | nil =>
      intro input members rest read
      simp [readMoreMembers, fail] at read
  | cons _ budget ih =>
      intro input members rest read
      rcases readMoreMembers_ok_iff.mp read with ⟨-, rfl⟩ |
        ⟨_, _, first, middle, others, -, -, readFirst, readOthers, rfl⟩
      · simp
      · exact List.forall_mem_cons.mpr ⟨yields_readMember each readFirst, ih readOthers⟩

theorem yields_readMembers (each : Yields value property) :
    Yields (readMembers origin value) fun members => ∀ member ∈ members, property member.2 := by
  intro input members rest read
  rcases readMembers_ok_iff.mp read with ⟨-, rfl⟩ |
    ⟨_, first, middle, others, -, readFirst, readOthers, rfl⟩
  · simp
  · exact List.forall_mem_cons.mpr
      ⟨yields_readMember each readFirst, yields_readMoreMembers each _ readOthers⟩

end Yields

/-! The members of a record. -/

theorem readName_value {expected : Value} {name input rest : List UInt8} {value : Value}
    (read : readName expected name input = .ok (value, rest)) : value = expected := by
  induction name generalizing input with
  | nil =>
      cases read
      rfl
  | cons byte name ih =>
      cases input with
      | nil => simp [readName, fail] at read
      | cons first input =>
          unfold readName at read
          split at read
          · exact ih read
          · simp [fail] at read

theorem yields_readNumber (negative : Bool) : Yields (readNumber negative) Value.InRange := by
  intro input value rest read
  obtain ⟨literal, -, found⟩ := readNumber_ok_iff.mp read
  exact Literal.value?_inRange found

theorem yields_readScalar (origin : Origin) : Yields (readScalar origin) Value.InRange := by
  intro input value rest read
  unfold readScalar at read
  split at read
  · simp [fail] at read
  · split at read
    · rw [readName_value read]
      trivial
    · rw [readName_value read]
      trivial
    · rw [readName_value read]
      trivial
    · exact yields_readNumber true read
    · obtain ⟨⟨text, middle⟩, _, read⟩ := bind_eq_ok_iff.mp read
      cases read
      trivial
    · split at read
      · exact yields_readNumber false read
      · simp [fail] at read

theorem yields_readValue (origin : Origin) (depth : Nat) :
    Yields (readValue origin depth) Value.InRange := by
  intro input value rest read
  rcases readValue_ok_iff.mp read with ⟨_, _, _, -, -, -, rfl⟩ | ⟨_, _, _, -, -, -, rfl⟩ | read
  · trivial
  · trivial
  · exact yields_readScalar origin read

namespace Object

variable {property : Value → Prop}

theorem insert_forall {key : String} {value : Value} {object : Object} (new : property value)
    (held : ∀ member ∈ object, property member.2) :
    ∀ member ∈ object.insert key value, property member.2 := by
  induction object with
  | nil => simpa [insert] using new
  | cons first rest ih =>
      obtain ⟨headHeld, restHeld⟩ := List.forall_mem_cons.mp held
      unfold insert
      split
      · exact List.forall_mem_cons.mpr ⟨new, held⟩
      · split
        · exact List.forall_mem_cons.mpr ⟨new, restHeld⟩
        · exact List.forall_mem_cons.mpr ⟨headHeld, ih restHeld⟩

theorem ofMembers_forall {members : List (String × Value)}
    (held : ∀ member ∈ members, property member.2) :
    ∀ member ∈ ofMembers members, property member.2 := by
  have kept (object : Object) (start : ∀ member ∈ object, property member.2) :
      ∀ member ∈ members.foldl (fun object member => object.insert member.1 member.2) object,
        property member.2 := by
    induction members generalizing object with
    | nil => exact start
    | cons first rest ih =>
        obtain ⟨headHeld, restHeld⟩ := List.forall_mem_cons.mp held
        exact ih restHeld _ (insert_forall headHeld start)
  exact kept [] (by simp)

theorem get?_of_forall {key : String} {value : Value} {object : Object}
    (held : ∀ member ∈ object, property member.2) (found : object.get? key = some value) :
    property value := by
  induction object with
  | nil => cases found
  | cons first rest ih =>
      obtain ⟨headHeld, restHeld⟩ := List.forall_mem_cons.mp held
      unfold get? at found
      split at found
      · cases found
        exact headHeld
      · exact ih restHeld found

end Object

def Object.InRange (object : Object) : Prop := ∀ member ∈ object, member.2.InRange

theorem yields_readRecord (origin : Origin) : Yields (readRecord origin) Object.InRange := by
  intro input object rest read
  obtain ⟨_, members, -, found, rfl⟩ := readRecord_ok_iff.mp read
  exact Object.ofMembers_forall (yields_readMembers (yields_readValue _ _) found)

theorem records_inRange {origin : Origin} {input : List UInt8} {objects : List Object}
    (read : records origin input = .ok objects) : ∀ object ∈ objects, object.InRange := by
  obtain ⟨_, readRecords, -⟩ := readLog_ok_iff.mp (mapError_eq_ok_iff.mp read)
  obtain ⟨_, -, readItems⟩ := readRecords_ok_iff.mp readRecords
  exact yields_readItems (yields_readRecord _) readItems

end Throughput.Json
