import Mathlib.Data.List.TakeWhile
import Throughput.Json.Reader
import Throughput.Proofs.Result

/-!
When the readers of containers succeed, and with what. Each lemma says everything that its reader
can do with success, so that later proofs need not look into the reader.
-/

namespace Throughput.Json

def Blank (bytes : List UInt8) : Prop := ∀ byte ∈ bytes, byte ∈ [0x20, 0x0A, 0x0D, 0x09]

theorem isBlankByte_iff (byte : UInt8) : isBlankByte byte = true ↔
    byte ∈ ([0x20, 0x0A, 0x0D, 0x09] : List UInt8) := by
  simp only [isBlankByte, Bool.or_eq_true, decide_eq_true_eq, List.mem_cons, List.not_mem_nil,
    or_false, or_assoc]

theorem skipBlanks_eq_nil_iff {bytes : List UInt8} : skipBlanks bytes = [] ↔ Blank bytes := by
  simp only [skipBlanks, List.dropWhile_eq_nil_iff, isBlankByte_iff, Blank]

theorem Blank.right {first rest : List UInt8} (blank : Blank (first ++ rest)) : Blank rest :=
  fun byte member => blank byte (List.mem_append_right first member)

section Readers

variable {origin : Origin} {input rest : List UInt8}

section Numbers

theorem dropWhile_isDigit_eq_self {after : List UInt8} (last : after.head?.any isDigit = false) :
    leadingDigits after = [] ∧ afterDigits after = after := by
  cases after with
  | nil => exact ⟨rfl, rfl⟩
  | cons byte after =>
      have other : ¬isDigit byte = true := by simpa using last
      constructor
      · rw [leadingDigits, List.takeWhile_cons_of_neg other]
        rfl
      · rw [afterDigits, List.dropWhile_cons_of_neg other]

theorem readWhole_ok_iff {digits : List Nat} :
    Literal.readWhole input = .ok (digits, rest) ↔
      ∃ byte after digit, input = byte :: after ∧ digit? byte = some digit ∧
        (digit = 0 → after.head?.any isDigit = false) ∧ digits = digit :: leadingDigits after ∧
        rest = afterDigits after := by
  constructor
  · intro read
    unfold Literal.readWhole at read
    split at read
    · cases read
    · split at read
      · cases read
      · rename_i after zero
        split at read
        · cases read
        · rename_i last
          have last := Bool.eq_false_iff.mpr last
          obtain ⟨none, all⟩ := dropWhile_isDigit_eq_self last
          cases read
          exact ⟨_, _, 0, rfl, zero, fun _ => last, by rw [none], all.symm⟩
      · rename_i digit nonzero found
        cases read
        exact ⟨_, _, digit, rfl, found, fun zero => absurd zero nonzero, rfl, rfl⟩
  · rintro ⟨byte, after, digit, rfl, found, last, rfl, rfl⟩
    by_cases zero : digit = 0
    · subst zero
      obtain ⟨none, all⟩ := dropWhile_isDigit_eq_self (last rfl)
      simp [Literal.readWhole, found, last, none, all]
    · unfold Literal.readWhole
      dsimp only
      split
      · rename_i missing
        rw [found] at missing
        cases missing
      · rename_i same
        rw [found] at same
        cases same
        contradiction
      · rename_i same
        rw [found] at same
        cases same
        rfl

theorem readFraction_ok_iff {fraction : Option (List Nat)} :
    Literal.readFraction input = .ok (fraction, rest) ↔
      (∀ after, input ≠ 0x2E :: after) ∧ fraction = none ∧ rest = input ∨
      ∃ after, input = 0x2E :: after ∧ leadingDigits after ≠ [] ∧
        fraction = some (leadingDigits after) ∧ rest = afterDigits after := by
  constructor
  · intro read
    unfold Literal.readFraction at read
    split at read
    · split at read
      · cases read
      · split at read
        · cases read
        · rename_i some
          cases read
          exact .inr ⟨_, rfl, by simpa using some, rfl, rfl⟩
    · rename_i other
      cases read
      exact .inl ⟨fun after same => other after same, rfl, rfl⟩
  · rintro (⟨other, rfl, rfl⟩ | ⟨after, rfl, some, rfl, rfl⟩)
    · unfold Literal.readFraction
      split
      · rename_i after
        exact absurd rfl (other after)
      · rfl
    · have nonempty : after ≠ [] := by
        rintro rfl
        exact some rfl
      simp [Literal.readFraction, nonempty, some]

theorem readExponent_ok_iff {exponent : Option Exponent} :
    Literal.readExponent input = .ok (exponent, rest) ↔
      (∀ byte ∈ input.head?, byte ≠ 0x45 ∧ byte ≠ 0x65) ∧ exponent = none ∧ rest = input ∨
      ∃ letter after byte start digit, input = letter :: after ∧
        (letter = 0x45 ∨ letter = 0x65) ∧ (Literal.exponentSign after).2 = byte :: start ∧
        digit? byte = some digit ∧
        exponent = some ⟨(Literal.exponentSign after).1, digit :: leadingDigits start⟩ ∧
        rest = afterDigits start := by
  constructor
  · intro read
    unfold Literal.readExponent at read
    split at read
    · split at read
      · rename_i after letter
        change Literal.readExponentDigits (Literal.exponentSign after).1
          (Literal.exponentSign after).2 = _ at read
        unfold Literal.readExponentDigits at read
        split at read
        · cases read
        · rename_i signed
          split at read
          · cases read
          · rename_i digit found
            cases read
            exact .inr ⟨_, _, _, _, digit, rfl, letter, signed, found, rfl, rfl⟩
      · rename_i other
        cases read
        exact .inl ⟨by simpa using other, rfl, rfl⟩
    · cases read
      exact .inl ⟨by simp, rfl, rfl⟩
  · rintro (⟨other, rfl, rfl⟩ | ⟨letter, after, byte, start, digit, rfl, exponential, signed, found,
      rfl, rfl⟩)
    · cases rest with
      | nil => rfl
      | cons byte rest =>
          obtain ⟨upper, lower⟩ := other byte rfl
          simp [Literal.readExponent, upper, lower]
    · simp [Literal.readExponent, exponential, Literal.readExponentDigits, signed, found]

theorem read_ok_iff {negative : Bool} {literal : Literal} :
    Literal.read negative input = .ok (literal, rest) ↔
      ∃ afterWhole afterFraction, Literal.readWhole input = .ok (literal.whole, afterWhole) ∧
        Literal.readFraction afterWhole = .ok (literal.fraction, afterFraction) ∧
        Literal.readExponent afterFraction = .ok (literal.exponent, rest) ∧
        literal.negative = negative := by
  constructor
  · intro read
    obtain ⟨⟨whole, afterWhole⟩, readWhole, read⟩ := bind_eq_ok_iff.mp read
    obtain ⟨⟨fraction, afterFraction⟩, readFraction, read⟩ := bind_eq_ok_iff.mp read
    obtain ⟨⟨exponent, afterExponent⟩, readExponent, read⟩ := bind_eq_ok_iff.mp read
    cases read
    exact ⟨afterWhole, afterFraction, readWhole, readFraction, readExponent, rfl⟩
  · rintro ⟨afterWhole, afterFraction, readWhole, readFraction, readExponent, rfl⟩
    simp [Literal.read, readWhole, readFraction, readExponent, bind, Except.bind, pure, Except.pure]

theorem readNumber_ok_iff {negative : Bool} {value : Value} :
    readNumber negative input = .ok (value, rest) ↔
      ∃ literal, Literal.read negative input = .ok (literal, rest) ∧
        literal.value? = some value := by
  constructor
  · intro read
    obtain ⟨⟨literal, middle⟩, found, read⟩ := bind_eq_ok_iff.mp read
    dsimp only at read
    split at read
    · rename_i meant
      cases read
      exact ⟨literal, found, meant⟩
    · cases read
  · rintro ⟨literal, found, meant⟩
    simp [readNumber, found, meant, bind, Except.bind, pure, Except.pure]

end Numbers

theorem readString_ok_iff {text : String} :
    readString origin input = .ok (text, rest) ↔
      ∃ content, StringToken.readBytes .outside [] input = .ok (content, rest) ∧
        origin.content? content = some text := by
  constructor
  · intro read
    obtain ⟨⟨content, middle⟩, token, read⟩ := bind_eq_ok_iff.mp read
    dsimp only at read
    split at read
    · rename_i meant
      cases read
      exact ⟨content, token, meant⟩
    · cases read
  · rintro ⟨content, token, meant⟩
    simp [readString, token, meant, bind, Except.bind, pure, Except.pure]

theorem readScalar_digit (origin : Origin) {byte : UInt8} (digit : isDigit byte = true)
    (after : List UInt8) :
    readScalar origin (byte :: after) = readNumber false (byte :: after) := by
  unfold readScalar
  dsimp only
  split
  case h_6 => rw [if_pos digit]
  all_goals exact absurd digit (by decide)

section Lists

variable {α : Type} {item : Reader α} {values : List α}

theorem readMoreItems_ok_iff {unit : UInt8} {budget : List UInt8} :
    readMoreItems item (unit :: budget) input = .ok (values, rest) ↔
      skipBlanks input = 0x5D :: rest ∧ values = [] ∨
      ∃ after byte start first middle others, skipBlanks input = 0x2C :: after ∧
        skipBlanks after = byte :: start ∧ byte ≠ 0x5D ∧
        item (byte :: start) = .ok (first, middle) ∧
        readMoreItems item budget middle = .ok (others, rest) ∧ values = first :: others := by
  constructor
  · intro read
    unfold readMoreItems at read
    split at read
    · cases read
    · rename_i found
      cases read
      exact .inl ⟨found, rfl⟩
    · rename_i after found
      split at read
      · cases read
      · cases read
      · rename_i nonempty other
        obtain ⟨⟨first, middle⟩, readFirst, read⟩ := bind_eq_ok_iff.mp read
        obtain ⟨⟨others, last⟩, readOthers, read⟩ := bind_eq_ok_iff.mp read
        cases read
        obtain ⟨byte, start, begins⟩ := List.exists_cons_of_ne_nil nonempty
        refine .inr ⟨after, byte, start, first, middle, others, found, begins, ?_,
          begins ▸ readFirst, readOthers, rfl⟩
        rintro rfl
        exact other start begins
    · cases read
  · rintro (⟨found, rfl⟩ | ⟨after, byte, start, first, middle, others, found, begins, other,
      readFirst, readOthers, rfl⟩)
    · simp [readMoreItems, found]
    · simp [readMoreItems, found, begins, other, readFirst, readOthers, bind, Except.bind, pure,
        Except.pure]

theorem readItems_ok_iff :
    readItems item input = .ok (values, rest) ↔
      skipBlanks input = 0x5D :: rest ∧ values = [] ∨
      ∃ byte start first middle others, skipBlanks input = byte :: start ∧ byte ≠ 0x5D ∧
        item (byte :: start) = .ok (first, middle) ∧
        readMoreItems item (0 :: middle) middle = .ok (others, rest) ∧
        values = first :: others := by
  constructor
  · intro read
    unfold readItems at read
    split at read
    · cases read
    · rename_i found
      cases read
      exact .inl ⟨found, rfl⟩
    · rename_i nonempty other
      obtain ⟨⟨first, middle⟩, readFirst, read⟩ := bind_eq_ok_iff.mp read
      obtain ⟨⟨others, last⟩, readOthers, read⟩ := bind_eq_ok_iff.mp read
      cases read
      obtain ⟨byte, start, begins⟩ := List.exists_cons_of_ne_nil nonempty
      refine .inr ⟨byte, start, first, middle, others, begins, ?_, begins ▸ readFirst,
        readOthers, rfl⟩
      rintro rfl
      exact other start begins
  · rintro (⟨found, rfl⟩ | ⟨byte, start, first, middle, others, begins, other, readFirst,
      readOthers, rfl⟩)
    · simp [readItems, found]
    · simp [readItems, begins, other, readFirst, readOthers, bind, Except.bind, pure, Except.pure]

end Lists

section Objects

variable {value : Reader Value} {member : String × Value} {members : List (String × Value)}

theorem readMember_ok_iff :
    readMember origin value input = .ok (member, rest) ↔
      ∃ afterKey after, readString origin input = .ok (member.1, afterKey) ∧
        skipBlanks afterKey = 0x3A :: after ∧
        value (skipBlanks after) = .ok (member.2, rest) := by
  constructor
  · intro read
    obtain ⟨⟨key, afterKey⟩, readKey, read⟩ := bind_eq_ok_iff.mp read
    dsimp only at read
    split at read
    · cases read
    · rename_i after found
      obtain ⟨⟨held, last⟩, readHeld, read⟩ := bind_eq_ok_iff.mp read
      cases read
      exact ⟨afterKey, after, readKey, found, readHeld⟩
    · cases read
  · rintro ⟨afterKey, after, readKey, found, readHeld⟩
    simp [readMember, readKey, found, readHeld, bind, Except.bind, pure, Except.pure]

theorem readMoreMembers_ok_iff {unit : UInt8} {budget : List UInt8} :
    readMoreMembers origin value (unit :: budget) input = .ok (members, rest) ↔
      skipBlanks input = 0x7D :: rest ∧ members = [] ∨
      ∃ after start first middle others, skipBlanks input = 0x2C :: after ∧
        skipBlanks after = 0x22 :: start ∧
        readMember origin value start = .ok (first, middle) ∧
        readMoreMembers origin value budget middle = .ok (others, rest) ∧
        members = first :: others := by
  constructor
  · intro read
    unfold readMoreMembers at read
    split at read
    · cases read
    · rename_i found
      cases read
      exact .inl ⟨found, rfl⟩
    · rename_i after found
      split at read
      · cases read
      · rename_i start begins
        obtain ⟨⟨first, middle⟩, readFirst, read⟩ := bind_eq_ok_iff.mp read
        obtain ⟨⟨others, last⟩, readOthers, read⟩ := bind_eq_ok_iff.mp read
        cases read
        exact .inr ⟨after, start, first, middle, others, found, begins, readFirst, readOthers, rfl⟩
      · cases read
      · cases read
    · cases read
  · rintro (⟨found, rfl⟩ | ⟨after, start, first, middle, others, found, begins, readFirst,
      readOthers, rfl⟩)
    · simp [readMoreMembers, found]
    · simp [readMoreMembers, found, begins, readFirst, readOthers, bind, Except.bind, pure,
        Except.pure]

theorem readMembers_ok_iff :
    readMembers origin value input = .ok (members, rest) ↔
      skipBlanks input = 0x7D :: rest ∧ members = [] ∨
      ∃ start first middle others, skipBlanks input = 0x22 :: start ∧
        readMember origin value start = .ok (first, middle) ∧
        readMoreMembers origin value (0 :: middle) middle = .ok (others, rest) ∧
        members = first :: others := by
  constructor
  · intro read
    unfold readMembers at read
    split at read
    · cases read
    · rename_i found
      cases read
      exact .inl ⟨found, rfl⟩
    · rename_i start begins
      obtain ⟨⟨first, middle⟩, readFirst, read⟩ := bind_eq_ok_iff.mp read
      obtain ⟨⟨others, last⟩, readOthers, read⟩ := bind_eq_ok_iff.mp read
      cases read
      exact .inr ⟨start, first, middle, others, begins, readFirst, readOthers, rfl⟩
    · cases read
  · rintro (⟨found, rfl⟩ | ⟨start, first, middle, others, begins, readFirst, readOthers, rfl⟩)
    · simp [readMembers, found]
    · simp [readMembers, begins, readFirst, readOthers, bind, Except.bind, pure, Except.pure]

end Objects

/-- A container opens one of the levels that are left; anything else is read at every level. -/
theorem readValue_ok_iff {depth : Nat} {value : Value} :
    readValue origin depth input = .ok (value, rest) ↔
      (∃ below start items, depth = below + 1 ∧ input = 0x5B :: start ∧
        readItems (readValue origin below) start = .ok (items, rest) ∧ value = .array items) ∨
      (∃ below start members, depth = below + 1 ∧ input = 0x7B :: start ∧
        readMembers origin (readValue origin below) start = .ok (members, rest) ∧
        value = .object (Object.ofMembers members)) ∨
      readScalar origin input = .ok (value, rest) := by
  constructor
  · intro read
    cases depth with
    | zero =>
        unfold readValue at read
        split at read
        · cases read
        · cases read
        · exact .inr (.inr read)
    | succ below =>
        unfold readValue at read
        split at read
        · obtain ⟨⟨items, middle⟩, found, read⟩ := bind_eq_ok_iff.mp read
          cases read
          exact .inl ⟨below, _, items, rfl, rfl, found, rfl⟩
        · obtain ⟨⟨members, middle⟩, found, read⟩ := bind_eq_ok_iff.mp read
          cases read
          exact .inr (.inl ⟨below, _, members, rfl, rfl, found, rfl⟩)
        · exact .inr (.inr read)
  · rintro (⟨below, start, items, rfl, rfl, found, rfl⟩ |
      ⟨below, start, members, rfl, rfl, found, rfl⟩ | read)
    · simp [readValue, found, bind, Except.bind, pure, Except.pure]
    · simp [readValue, found, bind, Except.bind, pure, Except.pure]
    · have list (start : List UInt8) : input ≠ 0x5B :: start := by
        rintro rfl
        cases read
      have object (start : List UInt8) : input ≠ 0x7B :: start := by
        rintro rfl
        cases read
      cases depth with
      | zero =>
          unfold readValue
          split
          · exact absurd rfl (list _)
          · exact absurd rfl (object _)
          · exact read
      | succ below =>
          unfold readValue
          split
          · exact absurd rfl (list _)
          · exact absurd rfl (object _)
          · exact read

theorem refuse_ne_ok {α : Type} (origin : Origin) (expected : Expected) (input : List UInt8)
    (result : α × List UInt8) : refuse origin expected input ≠ .ok result := by
  intro read
  unfold refuse at read
  split at read
  · cases read
  · cases read
  · obtain ⟨_, _, read⟩ := bind_eq_ok_iff.mp read
    cases read

theorem readRecord_ok_iff {object : Object} :
    readRecord origin input = .ok (object, rest) ↔
      ∃ start members, input = 0x7B :: start ∧
        readMembers origin (readValue origin (depthLimit - 2)) start = .ok (members, rest) ∧
        object = Object.ofMembers members := by
  constructor
  · intro read
    unfold readRecord at read
    split at read
    · obtain ⟨⟨members, middle⟩, found, read⟩ := bind_eq_ok_iff.mp read
      cases read
      exact ⟨_, members, rfl, found, rfl⟩
    · exact absurd read (refuse_ne_ok _ _ _ _)
  · rintro ⟨start, members, rfl, found, rfl⟩
    simp [readRecord, found, bind, Except.bind, pure, Except.pure]

theorem readRecords_ok_iff {objects : List Object} :
    readRecords origin input = .ok (objects, rest) ↔
      ∃ start, skipBlanks input = 0x5B :: start ∧
        readItems (readRecord origin) start = .ok (objects, rest) := by
  constructor
  · intro read
    unfold readRecords at read
    split at read
    · rename_i start found
      exact ⟨start, found, read⟩
    · exact absurd read (refuse_ne_ok _ _ _ _)
  · rintro ⟨start, found, read⟩
    simpa [readRecords, found] using read

theorem readLog_ok_iff {objects : List Object} :
    readLog origin input = .ok objects ↔
      ∃ rest, readRecords origin input = .ok (objects, rest) ∧ skipBlanks rest = [] := by
  constructor
  · intro read
    obtain ⟨⟨found, rest⟩, readRecords, read⟩ := bind_eq_ok_iff.mp read
    dsimp only at read
    split at read
    · rename_i blank
      cases read
      exact ⟨rest, readRecords, blank⟩
    · cases read
  · rintro ⟨rest, readRecords, blank⟩
    simp [readLog, readRecords, blank, bind, Except.bind, pure, Except.pure]

end Readers

end Throughput.Json
