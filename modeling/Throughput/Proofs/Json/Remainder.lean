import Throughput.Proofs.Json.Readers

/-!
What readers leave behind. They take characters below 0x80 and whole string tokens, one after the
other, so that a property which outlives these also holds of the input that is left over.
-/

namespace Throughput.Json

theorem digit?_lt {byte : UInt8} {digit : Nat} (found : digit? byte = some digit) :
    byte < 0x80 := by
  unfold digit? at found
  split at found
  · rw [UInt8.lt_iff_toNat_lt]
    have : (0x80 : UInt8).toNat = 128 := rfl
    omega
  · cases found

theorem isDigit_lt {byte : UInt8} (digit : isDigit byte = true) : byte < 0x80 := by
  obtain ⟨_, found⟩ := Option.isSome_iff_exists.mp digit
  exact digit?_lt found

theorem isBlankByte_lt {byte : UInt8} (blank : isBlankByte byte = true) : byte < 0x80 := by
  simp only [isBlankByte, Bool.or_eq_true, decide_eq_true_eq] at blank
  rcases blank with ((rfl | rfl) | rfl) | rfl <;> decide

structure Lasting (property : List UInt8 → Prop) : Prop where
  tail : ∀ {byte rest}, byte < 0x80 → property (byte :: rest) → property rest
  token : ∀ {input content rest}, StringToken.readBytes .outside [] input = .ok (content, rest) →
    property input → property rest

def Keeps {α : Type} (reader : Reader α) (property : List UInt8 → Prop) : Prop :=
  ∀ ⦃input value rest⦄, reader input = .ok (value, rest) → property input → property rest

section Keeps

variable {α : Type} {origin : Origin} {property : List UInt8 → Prop} {input rest : List UInt8}

theorem Lasting.dropWhile (lasting : Lasting property) {taken : UInt8 → Bool}
    (ascii : ∀ byte, taken byte = true → byte < 0x80) (holds : property input) :
    property (input.dropWhile taken) := by
  induction input with
  | nil => exact holds
  | cons byte rest ih =>
      by_cases first : taken byte = true
      · rw [List.dropWhile_cons_of_pos first]
        exact ih (lasting.tail (ascii byte first) holds)
      · rw [List.dropWhile_cons_of_neg first]
        exact holds

theorem Lasting.skipBlanks (lasting : Lasting property) (holds : property input) :
    property (skipBlanks input) :=
  lasting.dropWhile (fun _ => isBlankByte_lt) holds

theorem Lasting.afterDigits (lasting : Lasting property) (holds : property input) :
    property (afterDigits input) :=
  lasting.dropWhile (fun _ => isDigit_lt) holds

theorem keeps_readWhole (lasting : Lasting property) : Keeps Literal.readWhole property := by
  intro input digits rest read holds
  obtain ⟨byte, after, digit, rfl, found, -, -, rfl⟩ := readWhole_ok_iff.mp read
  exact lasting.afterDigits (lasting.tail (digit?_lt found) holds)

theorem keeps_readFraction (lasting : Lasting property) :
    Keeps Literal.readFraction property := by
  intro input digits rest read holds
  rcases readFraction_ok_iff.mp read with ⟨-, -, rfl⟩ | ⟨after, rfl, -, -, rfl⟩
  · exact holds
  · exact lasting.afterDigits (lasting.tail (by decide) holds)

theorem exponentSign_lasts (lasting : Lasting property) (holds : property input) :
    property (Literal.exponentSign input).2 := by
  unfold Literal.exponentSign
  split
  · exact lasting.tail (by decide) holds
  · exact lasting.tail (by decide) holds
  · exact holds

theorem keeps_readExponent (lasting : Lasting property) :
    Keeps Literal.readExponent property := by
  intro input exponent rest read holds
  rcases readExponent_ok_iff.mp read with ⟨-, -, rfl⟩ |
    ⟨letter, after, byte, start, digit, rfl, exponential, signed, found, -, rfl⟩
  · exact holds
  · have ascii : letter < 0x80 := by
      rcases exponential with rfl | rfl <;> decide
    have digits := exponentSign_lasts lasting (lasting.tail ascii holds)
    rw [signed] at digits
    exact lasting.afterDigits (lasting.tail (digit?_lt found) digits)

theorem keeps_readNumber (lasting : Lasting property) (negative : Bool) :
    Keeps (readNumber negative) property := by
  intro input value rest read holds
  obtain ⟨literal, found, -⟩ := readNumber_ok_iff.mp read
  obtain ⟨afterWhole, afterFraction, readWhole, readFraction, readExponent, -⟩ :=
    read_ok_iff.mp found
  exact keeps_readExponent lasting readExponent
    (keeps_readFraction lasting readFraction (keeps_readWhole lasting readWhole holds))

theorem keeps_readName (lasting : Lasting property) (value : Value) {name : List UInt8}
    (ascii : (name.all fun byte => byte < 0x80) = true) : Keeps (readName value name) property := by
  intro input found rest read holds
  induction name generalizing input with
  | nil =>
      cases read
      exact holds
  | cons expected name ih =>
      rw [List.all_cons, Bool.and_eq_true, decide_eq_true_eq] at ascii
      cases input with
      | nil => simp [readName, fail] at read
      | cons byte input =>
          unfold readName at read
          split at read
          · rename_i same
            subst same
            exact ih ascii.2 read (lasting.tail ascii.1 holds)
          · simp [fail] at read

theorem keeps_readString (lasting : Lasting property) : Keeps (readString origin) property := by
  intro input text rest read holds
  obtain ⟨content, token, -⟩ := readString_ok_iff.mp read
  exact lasting.token token holds

theorem keeps_readScalar (lasting : Lasting property) : Keeps (readScalar origin) property := by
  intro input value rest read holds
  unfold readScalar at read
  split at read
  · simp [fail] at read
  · split at read
    · exact keeps_readName lasting _ (by decide) read (lasting.tail (by decide) holds)
    · exact keeps_readName lasting _ (by decide) read (lasting.tail (by decide) holds)
    · exact keeps_readName lasting _ (by decide) read (lasting.tail (by decide) holds)
    · exact keeps_readNumber lasting _ read (lasting.tail (by decide) holds)
    · obtain ⟨⟨text, middle⟩, token, read⟩ := bind_eq_ok_iff.mp read
      cases read
      exact keeps_readString lasting token (lasting.tail (by decide) holds)
    · split at read
      · exact keeps_readNumber lasting _ read holds
      · simp [fail] at read

theorem closes_readMoreItems (lasting : Lasting property) {item : Reader α}
    (each : Keeps item property) (budget : List UInt8) {values : List α}
    (read : readMoreItems item budget input = .ok (values, rest)) (holds : property input) :
    property (0x5D :: rest) := by
  induction budget generalizing input values with
  | nil => simp [readMoreItems, fail] at read
  | cons _ budget ih =>
      have start := lasting.skipBlanks holds
      rcases readMoreItems_ok_iff.mp read with ⟨found, -⟩ |
        ⟨after, byte, next, first, middle, others, found, begins, -, readFirst, readOthers, -⟩
      · rw [found] at start
        exact start
      · rw [found] at start
        have item := lasting.skipBlanks (lasting.tail (by decide) start)
        rw [begins] at item
        exact ih readOthers (each readFirst item)

/-- A list ends with its closing bracket. -/
theorem closes_readItems (lasting : Lasting property) {item : Reader α}
    (each : Keeps item property) {values : List α}
    (read : readItems item input = .ok (values, rest)) (holds : property input) :
    property (0x5D :: rest) := by
  have start := lasting.skipBlanks holds
  rcases readItems_ok_iff.mp read with ⟨found, -⟩ |
    ⟨byte, next, first, middle, others, begins, -, readFirst, readOthers, -⟩
  · rw [found] at start
    exact start
  · rw [begins] at start
    exact closes_readMoreItems lasting each _ readOthers (each readFirst start)

theorem keeps_readItems (lasting : Lasting property) {item : Reader α}
    (each : Keeps item property) : Keeps (readItems item) property :=
  fun _ _ _ read holds => lasting.tail (by decide) (closes_readItems lasting each read holds)

variable {value : Reader Value}

theorem keeps_readMember (lasting : Lasting property) (each : Keeps value property) :
    Keeps (readMember origin value) property := by
  intro input member rest read holds
  obtain ⟨afterKey, after, readKey, found, readHeld⟩ := readMember_ok_iff.mp read
  have colon := lasting.skipBlanks (keeps_readString lasting readKey holds)
  rw [found] at colon
  exact each readHeld (lasting.skipBlanks (lasting.tail (by decide) colon))

theorem keeps_readMoreMembers (lasting : Lasting property) (each : Keeps value property)
    (budget : List UInt8) : Keeps (readMoreMembers origin value budget) property := by
  induction budget with
  | nil =>
      intro input members rest read
      simp [readMoreMembers, fail] at read
  | cons _ budget ih =>
      intro input members rest read holds
      have start := lasting.skipBlanks holds
      rcases readMoreMembers_ok_iff.mp read with ⟨found, -⟩ |
        ⟨after, next, first, middle, others, found, begins, readFirst, readOthers, -⟩
      · rw [found] at start
        exact lasting.tail (by decide) start
      · rw [found] at start
        have quoted := lasting.skipBlanks (lasting.tail (by decide) start)
        rw [begins] at quoted
        exact ih readOthers
          (keeps_readMember lasting each readFirst (lasting.tail (by decide) quoted))

theorem keeps_readMembers (lasting : Lasting property) (each : Keeps value property) :
    Keeps (readMembers origin value) property := by
  intro input members rest read holds
  have start := lasting.skipBlanks holds
  rcases readMembers_ok_iff.mp read with ⟨found, -⟩ |
    ⟨next, first, middle, others, begins, readFirst, readOthers, -⟩
  · rw [found] at start
    exact lasting.tail (by decide) start
  · rw [begins] at start
    exact keeps_readMoreMembers lasting each _ readOthers
      (keeps_readMember lasting each readFirst (lasting.tail (by decide) start))

theorem keeps_readValue (lasting : Lasting property) (depth : Nat) :
    Keeps (readValue origin depth) property := by
  induction depth with
  | zero =>
      intro input value rest read holds
      rcases readValue_ok_iff.mp read with ⟨_, _, _, ⟨⟩, -⟩ | ⟨_, _, _, ⟨⟩, -⟩ | read
      exact keeps_readScalar lasting read holds
  | succ depth ih =>
      intro input value rest read holds
      rcases readValue_ok_iff.mp read with ⟨_, start, items, ⟨⟩, rfl, found, -⟩ |
        ⟨_, start, members, ⟨⟩, rfl, found, -⟩ | read
      · exact keeps_readItems lasting ih found (lasting.tail (by decide) holds)
      · exact keeps_readMembers lasting ih found (lasting.tail (by decide) holds)
      · exact keeps_readScalar lasting read holds

theorem keeps_readRecord (lasting : Lasting property) : Keeps (readRecord origin) property := by
  intro input object rest read holds
  obtain ⟨start, members, rfl, found, -⟩ := readRecord_ok_iff.mp read
  exact keeps_readMembers lasting (keeps_readValue lasting _) found
    (lasting.tail (by decide) holds)

/-- Records are a list, which ends with its closing bracket. -/
theorem closes_readRecords (lasting : Lasting property) {objects : List Object}
    (read : readRecords origin input = .ok (objects, rest)) (holds : property input) :
    property (0x5D :: rest) := by
  obtain ⟨start, found, read⟩ := readRecords_ok_iff.mp read
  have bracket := lasting.skipBlanks holds
  rw [found] at bracket
  exact closes_readItems lasting (keeps_readRecord lasting) read
    (lasting.tail (by decide) bracket)

end Keeps

end Throughput.Json
