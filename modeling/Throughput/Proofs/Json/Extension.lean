import Throughput.Proofs.Json.Remainder

/-!
Input added at the end. A number may go on in what is added, everything else has ended where it
was read: strings and containers end with a byte of their own, so that what was read of an input
is read of every longer one.
-/

namespace Throughput.Json

/-- Where something was left over, added input changes nothing but what is left over. -/
def Stable {α : Type} (reader : Reader α) : Prop :=
  ∀ ⦃input value rest⦄, reader input = .ok (value, rest) → rest ≠ [] →
    ∀ more, reader (input ++ more) = .ok (value, rest ++ more)

def Closed {α : Type} (reader : Reader α) : Prop :=
  ∀ ⦃input value rest⦄, reader input = .ok (value, rest) →
    ∀ more, reader (input ++ more) = .ok (value, rest ++ more)

theorem Closed.stable {α : Type} {reader : Reader α} (closed : Closed reader) : Stable reader :=
  fun _ _ _ read _ => closed read

section Extension

variable {α : Type} {origin : Origin} {input rest : List UInt8}

theorem dropWhile_append {taken : UInt8 → Bool} (left : input.dropWhile taken ≠ [])
    (more : List UInt8) : (input ++ more).dropWhile taken = input.dropWhile taken ++ more := by
  rw [List.dropWhile_append, if_neg (by simpa using left)]

theorem takeWhile_append {taken : UInt8 → Bool} (left : input.dropWhile taken ≠ [])
    (more : List UInt8) : (input ++ more).takeWhile taken = input.takeWhile taken := by
  induction input with
  | nil => exact absurd rfl left
  | cons byte input ih =>
      by_cases first : taken byte = true
      · rw [List.dropWhile_cons_of_pos first] at left
        rw [List.cons_append, List.takeWhile_cons_of_pos first, List.takeWhile_cons_of_pos first,
          ih left]
      · rw [List.cons_append, List.takeWhile_cons_of_neg first, List.takeWhile_cons_of_neg first]

theorem skipBlanks_append {byte : UInt8} (found : skipBlanks input = byte :: rest)
    (more : List UInt8) : skipBlanks (input ++ more) = byte :: rest ++ more := by
  have left : input.dropWhile isBlankByte ≠ [] := by
    intro empty
    exact absurd (found.symm.trans empty) (List.cons_ne_nil _ _)
  exact (dropWhile_append left more).trans (congrArg (· ++ more) found)

theorem lasting_eq_nil : Lasting (· = []) where
  tail := fun _ empty => absurd empty (List.cons_ne_nil _ _)
  token := fun read empty => by
    subst empty
    simp [StringToken.readBytes, fail] at read

theorem Keeps.ne_nil {reader : Reader α} (keeps : Keeps reader (· = [])) {value : α}
    (read : reader input = .ok (value, rest)) (left : rest ≠ []) : input ≠ [] :=
  fun empty => left (keeps read empty)

theorem digits_append {after : List UInt8} (left : afterDigits after ≠ []) (more : List UInt8) :
    leadingDigits (after ++ more) = leadingDigits after ∧
      afterDigits (after ++ more) = afterDigits after ++ more := by
  constructor
  · rw [leadingDigits, takeWhile_append left]
    rfl
  · exact dropWhile_append left more

theorem head?_append {after : List UInt8} (left : after ≠ []) (more : List UInt8) :
    (after ++ more).head? = after.head? := by
  obtain ⟨byte, others, rfl⟩ := List.exists_cons_of_ne_nil left
  rfl

theorem stable_readWhole : Stable Literal.readWhole := by
  intro input digits rest read left more
  obtain ⟨byte, after, digit, rfl, found, last, rfl, rfl⟩ := readWhole_ok_iff.mp read
  obtain ⟨leading, remaining⟩ := digits_append left more
  refine readWhole_ok_iff.mpr ⟨byte, after ++ more, digit, rfl, found, fun zero => ?_,
    by rw [leading], remaining.symm⟩
  have all := (dropWhile_isDigit_eq_self (last zero)).2
  rw [head?_append (all ▸ left)]
  exact last zero

theorem stable_readFraction : Stable Literal.readFraction := by
  intro input fraction rest read left more
  rcases readFraction_ok_iff.mp read with ⟨other, rfl, rfl⟩ | ⟨after, rfl, some, rfl, rfl⟩
  · refine readFraction_ok_iff.mpr (.inl ⟨fun after same => ?_, rfl, rfl⟩)
    obtain ⟨byte, others, rfl⟩ := List.exists_cons_of_ne_nil left
    cases same
    exact other others rfl
  · obtain ⟨leading, remaining⟩ := digits_append left more
    refine readFraction_ok_iff.mpr (.inr ⟨after ++ more, rfl, ?_, by rw [leading], remaining.symm⟩)
    rw [leading]
    exact some

theorem exponentSign_append {after : List UInt8} (left : after ≠ []) (more : List UInt8) :
    Literal.exponentSign (after ++ more) =
      ((Literal.exponentSign after).1, (Literal.exponentSign after).2 ++ more) := by
  obtain ⟨byte, others, rfl⟩ := List.exists_cons_of_ne_nil left
  unfold Literal.exponentSign
  split
  · rename_i same
    cases same
    rfl
  · rename_i same
    cases same
    rfl
  · rename_i plus minus
    split
    · rename_i same
      cases same
      exact absurd rfl (plus _)
    · rename_i same
      cases same
      exact absurd rfl (minus _)
    · rfl

theorem stable_readExponent : Stable Literal.readExponent := by
  intro input exponent rest read left more
  rcases readExponent_ok_iff.mp read with ⟨other, rfl, rfl⟩ |
    ⟨letter, after, byte, start, digit, rfl, exponential, signed, found, rfl, rfl⟩
  · refine readExponent_ok_iff.mpr (.inl ⟨?_, rfl, rfl⟩)
    rw [head?_append left]
    exact other
  · have nonempty : after ≠ [] := by
      rintro rfl
      cases signed
    obtain ⟨leading, remaining⟩ := digits_append left more
    have sign := exponentSign_append nonempty more
    rw [signed] at sign
    refine readExponent_ok_iff.mpr (.inr ⟨letter, after ++ more, byte, start ++ more, digit, rfl,
      exponential, by rw [sign]; rfl, found, by rw [sign, leading], remaining.symm⟩)

theorem stable_readNumber (negative : Bool) : Stable (readNumber negative) := by
  intro input value rest read left more
  obtain ⟨literal, found, meant⟩ := readNumber_ok_iff.mp read
  obtain ⟨afterWhole, afterFraction, readWhole, readFraction, readExponent, sign⟩ :=
    read_ok_iff.mp found
  have fractionLeft := (keeps_readExponent lasting_eq_nil).ne_nil readExponent left
  have wholeLeft := (keeps_readFraction lasting_eq_nil).ne_nil readFraction fractionLeft
  exact readNumber_ok_iff.mpr ⟨literal, read_ok_iff.mpr ⟨afterWhole ++ more, afterFraction ++ more,
    stable_readWhole readWhole wholeLeft more, stable_readFraction readFraction fractionLeft more,
    stable_readExponent readExponent left more, sign⟩, meant⟩

theorem closed_readName (value : Value) (name : List UInt8) : Closed (readName value name) := by
  intro input found rest read more
  induction name generalizing input with
  | nil =>
      cases read
      rfl
  | cons expected name ih =>
      cases input with
      | nil => cases read
      | cons byte input =>
          unfold readName at read
          split at read
          · rename_i same
            rw [List.cons_append, readName, if_pos same]
            exact ih read
          · cases read

theorem readBytes_append {state : EscapeState} {content result : List UInt8}
    (read : StringToken.readBytes state content input = .ok (result, rest)) (more : List UInt8) :
    StringToken.readBytes state content (input ++ more) = .ok (result, rest ++ more) := by
  induction input generalizing state content with
  | nil => cases read
  | cons byte input ih =>
      unfold StringToken.readBytes at read
      rw [List.cons_append, StringToken.readBytes]
      split at read
      · cases read
        rfl
      · exact ih read
      · cases read

theorem closed_readString (origin : Origin) : Closed (readString origin) := by
  intro input text rest read more
  obtain ⟨content, token, meant⟩ := readString_ok_iff.mp read
  exact readString_ok_iff.mpr ⟨content, readBytes_append token more, meant⟩

theorem stable_readScalar (origin : Origin) : Stable (readScalar origin) := by
  intro input value rest read left more
  unfold readScalar at read
  split at read
  · cases read
  · rename_i byte after
    rw [List.cons_append]
    unfold readScalar
    split at read
    · exact closed_readName _ _ read more
    · exact closed_readName _ _ read more
    · exact closed_readName _ _ read more
    · exact stable_readNumber _ read left more
    · obtain ⟨⟨text, middle⟩, token, read⟩ := bind_eq_ok_iff.mp read
      cases read
      dsimp only
      rw [closed_readString origin token more]
      rfl
    · split at read
      · rename_i digit
        change readScalar origin (byte :: (after ++ more)) = _
        rw [readScalar_digit origin digit]
        exact stable_readNumber _ read left more
      · cases read

section Lists

variable {item : Reader α} {values : List α} {budget : List UInt8}

theorem ne_nil_of_readMoreItems (read : readMoreItems item budget input = .ok (values, rest)) :
    input ≠ [] := by
  rintro rfl
  cases budget with
  | nil => cases read
  | cons _ budget => cases read

/-- Of a list that ends, all items end before it does, so that it is enough if these are stable. -/
theorem readMoreItems_append (each : Stable item)
    (read : readMoreItems item budget input = .ok (values, rest)) (extra more : List UInt8) :
    readMoreItems item (budget ++ extra) (input ++ more) = .ok (values, rest ++ more) := by
  induction budget generalizing input values with
  | nil => cases read
  | cons _ budget ih =>
      rcases readMoreItems_ok_iff.mp read with ⟨found, rfl⟩ |
        ⟨after, byte, start, first, middle, others, found, begins, other, readFirst, readOthers,
          rfl⟩
      · exact readMoreItems_ok_iff.mpr (.inl ⟨skipBlanks_append found more, rfl⟩)
      · exact readMoreItems_ok_iff.mpr (.inr ⟨after ++ more, byte, start ++ more, first,
          middle ++ more, others, skipBlanks_append found more, skipBlanks_append begins more,
          other, each readFirst (ne_nil_of_readMoreItems readOthers) more, ih readOthers, rfl⟩)

theorem closed_readItems (each : Stable item) : Closed (readItems item) := by
  intro input values rest read more
  rcases readItems_ok_iff.mp read with ⟨found, rfl⟩ |
    ⟨byte, start, first, middle, others, begins, other, readFirst, readOthers, rfl⟩
  · exact readItems_ok_iff.mpr (.inl ⟨skipBlanks_append found more, rfl⟩)
  · exact readItems_ok_iff.mpr (.inr ⟨byte, start ++ more, first, middle ++ more, others,
      skipBlanks_append begins more, other,
      each readFirst (ne_nil_of_readMoreItems readOthers) more,
      readMoreItems_append each readOthers more more, rfl⟩)

end Lists

section Objects

variable {value : Reader Value} {members : List (String × Value)} {budget : List UInt8}

theorem stable_readMember (each : Stable value) (begun : Keeps value (· = [])) :
    Stable (readMember origin value) := by
  intro input member rest read left more
  obtain ⟨afterKey, after, readKey, found, readHeld⟩ := readMember_ok_iff.mp read
  have start := begun.ne_nil readHeld left
  refine readMember_ok_iff.mpr ⟨afterKey ++ more, after ++ more,
    closed_readString origin readKey more, skipBlanks_append found more, ?_⟩
  rw [skipBlanks, dropWhile_append start]
  exact each readHeld left more

theorem ne_nil_of_readMoreMembers
    (read : readMoreMembers origin value budget input = .ok (members, rest)) : input ≠ [] := by
  rintro rfl
  cases budget with
  | nil => cases read
  | cons _ budget => cases read

theorem readMoreMembers_append (each : Stable value) (begun : Keeps value (· = []))
    (read : readMoreMembers origin value budget input = .ok (members, rest))
    (extra more : List UInt8) :
    readMoreMembers origin value (budget ++ extra) (input ++ more) =
      .ok (members, rest ++ more) := by
  induction budget generalizing input members with
  | nil => cases read
  | cons _ budget ih =>
      rcases readMoreMembers_ok_iff.mp read with ⟨found, rfl⟩ |
        ⟨after, start, first, middle, others, found, begins, readFirst, readOthers, rfl⟩
      · exact readMoreMembers_ok_iff.mpr (.inl ⟨skipBlanks_append found more, rfl⟩)
      · exact readMoreMembers_ok_iff.mpr (.inr ⟨after ++ more, start ++ more, first, middle ++ more,
          others, skipBlanks_append found more, skipBlanks_append begins more,
          stable_readMember each begun readFirst (ne_nil_of_readMoreMembers readOthers) more,
          ih readOthers, rfl⟩)

theorem closed_readMembers (each : Stable value) (begun : Keeps value (· = [])) :
    Closed (readMembers origin value) := by
  intro input members rest read more
  rcases readMembers_ok_iff.mp read with ⟨found, rfl⟩ |
    ⟨start, first, middle, others, begins, readFirst, readOthers, rfl⟩
  · exact readMembers_ok_iff.mpr (.inl ⟨skipBlanks_append found more, rfl⟩)
  · exact readMembers_ok_iff.mpr (.inr ⟨start ++ more, first, middle ++ more, others,
      skipBlanks_append begins more,
      stable_readMember each begun readFirst (ne_nil_of_readMoreMembers readOthers) more,
      readMoreMembers_append each begun readOthers more more, rfl⟩)

end Objects

theorem stable_readValue (origin : Origin) (depth : Nat) : Stable (readValue origin depth) := by
  induction depth with
  | zero =>
      intro input value rest read left more
      rcases readValue_ok_iff.mp read with ⟨_, _, _, ⟨⟩, -⟩ | ⟨_, _, _, ⟨⟩, -⟩ | read
      exact readValue_ok_iff.mpr (.inr (.inr (stable_readScalar origin read left more)))
  | succ depth ih =>
      intro input value rest read left more
      rcases readValue_ok_iff.mp read with ⟨_, start, items, ⟨⟩, rfl, found, rfl⟩ |
        ⟨_, start, members, ⟨⟩, rfl, found, rfl⟩ | read
      · exact readValue_ok_iff.mpr (.inl ⟨depth, start ++ more, items, rfl, rfl,
          closed_readItems ih found more, rfl⟩)
      · exact readValue_ok_iff.mpr (.inr (.inl ⟨depth, start ++ more, members, rfl, rfl,
          closed_readMembers ih (keeps_readValue lasting_eq_nil depth) found more, rfl⟩))
      · exact readValue_ok_iff.mpr (.inr (.inr (stable_readScalar origin read left more)))

theorem closed_readRecord (origin : Origin) : Closed (readRecord origin) := by
  intro input object rest read more
  obtain ⟨start, members, rfl, found, rfl⟩ := readRecord_ok_iff.mp read
  exact readRecord_ok_iff.mpr ⟨start ++ more, members, rfl,
    closed_readMembers (stable_readValue origin _) (keeps_readValue lasting_eq_nil _) found more,
    rfl⟩

theorem closed_readRecords (origin : Origin) : Closed (readRecords origin) := by
  intro input objects rest read more
  obtain ⟨start, found, read⟩ := readRecords_ok_iff.mp read
  exact readRecords_ok_iff.mpr ⟨start ++ more, skipBlanks_append found more,
    closed_readItems (closed_readRecord origin).stable read more⟩

end Extension

end Throughput.Json
