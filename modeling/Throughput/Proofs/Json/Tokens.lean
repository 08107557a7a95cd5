import Mathlib.Tactic.IntervalCases
import Throughput.Proofs.Json.Readers
import Throughput.Proofs.Json.Written
import Throughput.Proofs.Text.WellFormed

/-!
Reading of scalars as they are written. Every spelling of a string is read as the string, and the
decimal digits of an integer as the integer.
-/

namespace Throughput.Json

open Utf8

namespace StringToken

variable {content rest : List UInt8}

theorem readBytes_append {state next : EscapeState} {byte : UInt8} {bytes : List UInt8}
    (steps : step state byte = .append bytes next) :
    readBytes state content (byte :: rest) = readBytes next (bytes.reverse ++ content) rest := by
  rw [readBytes, steps]

theorem readBytes_plain {bytes : List UInt8}
    (plain : ∀ byte ∈ bytes, ¬byte < 0x20 ∧ byte ≠ 0x22 ∧ byte ≠ 0x5C) :
    readBytes .outside content (bytes ++ rest) =
      readBytes .outside (bytes.reverse ++ content) rest := by
  induction bytes generalizing content with
  | nil => rfl
  | cons byte bytes ih =>
      obtain ⟨⟨printable, noQuote, noEscape⟩, others⟩ := List.forall_mem_cons.mp plain
      have steps : step .outside byte = .append [byte] .outside := by
        simp [step, printable, noQuote, noEscape]
      rw [List.cons_append, readBytes_append steps, ih others]
      simp

theorem plain_utf8EncodeChar {character : Char} (printable : 0x20 ≤ character.toNat)
    (noQuote : character ≠ '"') (noEscape : character ≠ '\\') :
    ∀ byte ∈ String.utf8EncodeChar character, ¬byte < 0x20 ∧ byte ≠ 0x22 ∧ byte ≠ 0x5C := by
  intro byte member
  by_cases short : character.toNat < 0x80
  · rw [utf8EncodeChar_ascii short, List.mem_singleton] at member
    subst member
    have size : UInt8.size = 256 := rfl
    have value : (UInt8.ofNat character.toNat).toNat = character.toNat :=
      UInt8.toNat_ofNat_of_lt' (by omega)
    rw [← Char.toNat_inj.ne] at noQuote noEscape
    rw [UInt8.lt_iff_toNat_lt, ← UInt8.toNat_inj.ne, ← UInt8.toNat_inj.ne, value]
    exact ⟨Nat.not_lt.mpr printable, noQuote, noEscape⟩
  · have above := not_lt_of_mem_utf8EncodeChar short byte member
    refine ⟨fun below => above (UInt8.lt_trans below (by decide)), ?_, ?_⟩
    · rintro rfl
      exact above (by decide)
    · rintro rfl
      exact above (by decide)

theorem hexDigit?_of_hexDigit {value : Nat} {character : Char} (digit : HexDigit value character) :
    ∃ byte, String.utf8EncodeChar character = [byte] ∧ hexDigit? byte = some value := by
  obtain ⟨small, rfl | rfl⟩ := digit
  · interval_cases value <;> exact ⟨_, rfl, rfl⟩
  · interval_cases value <;> exact ⟨_, rfl, rfl⟩

theorem codeUnit?_of_hexUnit {code : Nat} {digits : List Char} (unit : HexUnit code digits) :
    ∃ first second third fourth, encode digits = [first, second, third, fourth] ∧
      codeUnit? [first, second, third, fourth] = some code := by
  obtain _ | ⟨digit₁, _ | ⟨digit₂, _ | ⟨digit₃, _ | ⟨digit₄, _ | _⟩⟩⟩⟩ := unit
  obtain ⟨first, encoded₁, value₁⟩ := hexDigit?_of_hexDigit digit₁
  obtain ⟨second, encoded₂, value₂⟩ := hexDigit?_of_hexDigit digit₂
  obtain ⟨third, encoded₃, value₃⟩ := hexDigit?_of_hexDigit digit₃
  obtain ⟨fourth, encoded₄, value₄⟩ := hexDigit?_of_hexDigit digit₄
  refine ⟨first, second, third, fourth, ?_, ?_⟩
  · simp [encode, encoded₁, encoded₂, encoded₃, encoded₄]
  · have parts : (((0 * 16 + code / 0x1000) * 16 + code / 0x100 % 16) * 16 + code / 0x10 % 16) *
        16 + code % 16 = code := by omega
    simp only [codeUnit?, List.foldlM_cons, List.foldlM_nil, value₁, value₂, value₃, value₄,
      Option.map_some, Option.bind_eq_bind, Option.bind_some, parts]
    rfl

/-- The digits of a code unit are read up to the state that the unit leads to. -/
theorem readBytes_unit {high : Option Nat} {code : Nat} {digits : List Char} {bytes : List UInt8}
    {next : EscapeState} (unit : HexUnit code digits)
    (finish : finishUnit high code = .append bytes next) :
    readBytes (.unit high []) content (encode digits ++ rest) =
      readBytes next (bytes.reverse ++ content) rest := by
  obtain ⟨first, second, third, fourth, encoded, value⟩ := codeUnit?_of_hexUnit unit
  have last : step (.unit high [first, second, third]) fourth = .append bytes next := by
    simp [step, value, finish]
  rw [encoded]
  calc readBytes (.unit high []) content (first :: second :: third :: fourth :: rest)
      = readBytes (.unit high [first, second, third]) content (fourth :: rest) := rfl
    _ = readBytes next (bytes.reverse ++ content) rest := readBytes_append last

theorem finishUnit_single {code : Nat} (valid : code.isValidChar) :
    finishUnit none code = .append (encoded code) .outside := by
  have noSurrogate : ¬(0xDC00 ≤ code ∧ code ≤ 0xDFFF) ∧ ¬(0xD800 ≤ code ∧ code ≤ 0xDBFF) := by
    unfold Nat.isValidChar at valid
    omega
  simp [finishUnit, noSurrogate]

theorem finishUnit_high {high : Nat} (inRange : high < 0x400) :
    finishUnit none (0xD800 + high) = .append [] (.highSurrogate (0xD800 + high)) := by
  have surrogate : ¬(0xDC00 ≤ 0xD800 + high ∧ 0xD800 + high ≤ 0xDFFF) ∧ 0xD800 + high ≤ 0xDBFF := by
    omega
  simp [finishUnit, surrogate]

theorem finishUnit_low (high : Nat) {low : Nat} (inRange : low < 0x400) :
    finishUnit (some (0xD800 + high)) (0xDC00 + low) =
      .append (encoded (0x10000 + high * 0x400 + low)) .outside := by
  have surrogate : 0xDC00 + low ≤ 0xDFFF := by omega
  simp [finishUnit, surrogate]

theorem encoded_toNat (character : Char) :
    encoded character.toNat = String.utf8EncodeChar character := by
  rw [encoded, Char.ofNat_toNat]

theorem readBytes_spells {character : Char} {spelled : List Char}
    (spells : Spells character spelled) :
    readBytes .outside content (encode spelled ++ rest) =
      readBytes .outside ((String.utf8EncodeChar character).reverse ++ content) rest := by
  have valid : character.toNat.isValidChar := character.valid
  cases spells with
  | plain printable noQuote noEscape =>
      rw [encode_cons, encode_nil, List.append_nil]
      exact readBytes_plain (plain_utf8EncodeChar printable noQuote noEscape)
  | short listed =>
      simp only [shortEscapes, List.mem_cons, List.not_mem_nil, or_false, Prod.mk.injEq] at listed
      rcases listed with ⟨rfl, rfl⟩ | ⟨rfl, rfl⟩ | ⟨rfl, rfl⟩ | ⟨rfl, rfl⟩ | ⟨rfl, rfl⟩ |
        ⟨rfl, rfl⟩ | ⟨rfl, rfl⟩ | ⟨rfl, rfl⟩ <;> rfl
  | @unit digits unit =>
      have finish := finishUnit_single valid
      rw [encoded_toNat] at finish
      calc readBytes .outside content (encode ('\\' :: 'u' :: digits) ++ rest)
          = readBytes (.unit none []) content (encode digits ++ rest) := rfl
        _ = _ := readBytes_unit unit finish
  | @pair high low first second code inRange highUnit lowUnit =>
      have highInRange : high < 0x400 := by
        unfold Nat.isValidChar at valid
        omega
      have finish := finishUnit_low high inRange
      rw [← code, encoded_toNat] at finish
      calc readBytes .outside content
            (encode ('\\' :: 'u' :: first ++ '\\' :: 'u' :: second) ++ rest)
          = readBytes (.unit none []) content
              (encode first ++ (0x5C :: 0x75 :: (encode second ++ rest))) := by
            rw [encode_append, List.append_assoc]
            rfl
        _ = readBytes (.highSurrogate (0xD800 + high)) content
              (0x5C :: 0x75 :: (encode second ++ rest)) :=
            readBytes_unit highUnit (finishUnit_high highInRange)
        _ = readBytes (.unit (some (0xD800 + high)) []) content (encode second ++ rest) := rfl
        _ = _ := readBytes_unit lowUnit finish

/-- The closing quote ends the token, whatever was read before it. -/
theorem readBytes_spellsAll {characters spelled : List Char}
    (spells : SpellsAll characters spelled) :
    readBytes .outside content (encode spelled ++ 0x22 :: rest) =
      .ok (content.reverse ++ encode characters, rest) := by
  induction spells generalizing content with
  | nil => simp [encode_nil, readBytes, step]
  | cons first others ih =>
      rw [encode_append, List.append_assoc, readBytes_spells first, ih]
      simp [encode_cons]

end StringToken

section Strings

theorem Origin.content?_encode (origin : Origin) (characters : List Char) :
    origin.content? (encode characters) = some (String.ofList characters) := by
  cases origin with
  | text => rw [Origin.content?, trusted_eq_of_text? (text?_encode characters)]
  | stream => rw [Origin.content?, text?_encode]

theorem readString_written (origin : Origin) {text : String} {written : List Char}
    (content : WrittenString text written) (rest : List UInt8) :
    ∃ start, encode written ++ rest = 0x22 :: start ∧
      readString origin start = .ok (text, rest) := by
  obtain ⟨spelled, spells, rfl⟩ := content
  refine ⟨encode spelled ++ 0x22 :: rest, ?_, ?_⟩
  · rw [encode_append, List.append_assoc]
    rfl
  · refine readString_ok_iff.mpr ⟨encode text.toList, StringToken.readBytes_spellsAll spells, ?_⟩
    rw [Origin.content?_encode, String.ofList_toList]

end Strings

/-! Integers. -/

def Delimited (rest : List UInt8) : Prop :=
  ∀ byte ∈ rest.head?, byte ∈ [0x20, 0x0A, 0x0D, 0x09, 0x2C, 0x5D, 0x7D]

theorem Delimited.cases {rest : List UInt8} (delimited : Delimited rest) :
    rest.head?.any isDigit = false ∧ (∀ after, rest ≠ 0x2E :: after) ∧
      ∀ byte ∈ rest.head?, byte ≠ 0x45 ∧ byte ≠ 0x65 := by
  cases rest with
  | nil => simp
  | cons byte after =>
      have each : (([0x20, 0x0A, 0x0D, 0x09, 0x2C, 0x5D, 0x7D] : List UInt8).all fun byte =>
          isDigit byte = false ∧ byte ≠ 0x2E ∧ byte ≠ 0x45 ∧ byte ≠ 0x65) = true := by decide
      obtain ⟨noDigit, noPoint, noExponent⟩ :=
        of_decide_eq_true (List.all_eq_true.mp each byte (delimited byte rfl))
      simpa [noDigit, noPoint] using noExponent

def digitValue (character : Char) : Nat := character.toNat - 48

theorem toNat_of_isDigit {character : Char} (digit : character.isDigit = true) :
    48 ≤ character.toNat ∧ character.toNat ≤ 57 :=
  Char.isDigit_iff_toNat.mp digit

theorem digit?_of_isDigit {character : Char} (digit : character.isDigit = true) :
    String.utf8EncodeChar character = [UInt8.ofNat character.toNat] ∧
      digit? (UInt8.ofNat character.toNat) = some (digitValue character) := by
  obtain ⟨least, most⟩ := toNat_of_isDigit digit
  have size : UInt8.size = 256 := rfl
  refine ⟨utf8EncodeChar_ascii (by omega), ?_⟩
  rw [digit?, UInt8.toNat_ofNat_of_lt' (by omega), if_pos ⟨least, most⟩]
  rfl

theorem leadingDigits_encode {digits : List Char} {rest : List UInt8}
    (each : ∀ character ∈ digits, character.isDigit = true)
    (last : rest.head?.any isDigit = false) :
    leadingDigits (encode digits ++ rest) = digits.map digitValue ∧
      afterDigits (encode digits ++ rest) = rest := by
  induction digits with
  | nil => exact dropWhile_isDigit_eq_self last
  | cons character digits ih =>
      obtain ⟨digit, others⟩ := List.forall_mem_cons.mp each
      obtain ⟨encoded, value⟩ := digit?_of_isDigit digit
      obtain ⟨leading, after⟩ := ih others
      have isDigit : isDigit (UInt8.ofNat character.toNat) = true := by simp [isDigit, value]
      rw [encode_cons, encoded, List.append_assoc, List.singleton_append]
      constructor
      · rw [leadingDigits, List.takeWhile_cons_of_pos isDigit, List.filterMap_cons_some value,
          List.map_cons]
        exact congrArg _ leading
      · rw [afterDigits, List.dropWhile_cons_of_pos isDigit]
        exact after

theorem natOfDigits_toDigits (value : Nat) :
    natOfDigits ((Nat.toDigits 10 value).map digitValue) = value := by
  rw [natOfDigits, List.foldl_map]
  calc (Nat.toDigits 10 value).foldl (fun value character => value * 10 + digitValue character) 0
      = Nat.ofDigitChars 10 (Nat.toDigits 10 value) 0 := by
        unfold Nat.ofDigitChars
        simp only [Nat.mul_comm]
        rfl
    _ = value := Nat.ofDigitChars_ten_toDigits

/-- Only zero is written with a zero in front. -/
theorem toDigits_eq_zero_cons {value : Nat} {others : List Char}
    (digits : Nat.toDigits 10 value = '0' :: others) : others = [] := by
  induction value using Nat.strongRecOn generalizing others with
  | ind value ih =>
      rw [Nat.toDigits_eq_if (by decide)] at digits
      split at digits
      · exact (List.cons.inj digits).2.symm
      · rename_i large
        obtain ⟨first, middle, higher⟩ := List.exists_cons_of_ne_nil
          (Nat.toDigits_ne_nil (n := value / 10) (b := 10))
        rw [higher, List.cons_append] at digits
        obtain ⟨rfl, -⟩ := List.cons.inj digits
        rw [ih (value / 10) (by omega) higher] at higher
        have zero : value / 10 = 0 := by
          rw [← Nat.ofDigitChars_ten_toDigits (n := value / 10), higher]
          rfl
        omega

theorem read_toDigits (negative : Bool) (value : Nat) {rest : List UInt8}
    (delimited : Delimited rest) :
    Literal.read negative (encode (Nat.toDigits 10 value) ++ rest) =
      .ok (⟨negative, (Nat.toDigits 10 value).map digitValue, none, none⟩, rest) := by
  obtain ⟨last, noPoint, noExponent⟩ := delimited.cases
  refine read_ok_iff.mpr ⟨rest, rest, ?_, readFraction_ok_iff.mpr (.inl ⟨noPoint, rfl, rfl⟩),
    readExponent_ok_iff.mpr (.inl ⟨noExponent, rfl, rfl⟩), rfl⟩
  have each : ∀ character ∈ Nat.toDigits 10 value, character.isDigit = true :=
    fun _ => Nat.isDigit_of_mem_toDigits (by decide) (by decide)
  obtain ⟨first, others, digits⟩ := List.exists_cons_of_ne_nil
    (Nat.toDigits_ne_nil (n := value) (b := 10))
  rw [digits] at each ⊢
  obtain ⟨digit, othersDigits⟩ := List.forall_mem_cons.mp each
  obtain ⟨encoded, meant⟩ := digit?_of_isDigit digit
  obtain ⟨leading, after⟩ := leadingDigits_encode othersDigits last
  refine readWhole_ok_iff.mpr ⟨UInt8.ofNat first.toNat, encode others ++ rest, digitValue first, ?_,
    meant, ?_, by rw [leading]; rfl, after.symm⟩
  · rw [encode_cons, encoded, List.append_assoc, List.singleton_append]
  · intro zero
    have same : first = '0' := by
      have bounds := toNat_of_isDigit digit
      rw [← Char.toNat_inj]
      change first.toNat - 48 = 0 at zero
      change first.toNat = 48
      omega
    rw [same] at digits
    rw [toDigits_eq_zero_cons digits]
    exact last

theorem readNumber_natural {value : Nat} (most : value < 0x10000000000000000) {rest : List UInt8}
    (delimited : Delimited rest) :
    readNumber false (encode (Nat.toDigits 10 value) ++ rest) = .ok (.integer value, rest) := by
  refine readNumber_ok_iff.mpr ⟨_, read_toDigits false value delimited, ?_⟩
  have fits : value < UInt64.size := most
  simp [Literal.value?, Literal.integer?, natOfDigits_toDigits, fits]

theorem readNumber_negative {value : Nat} (positive : 0 < value) (most : value ≤ 0x8000000000000000)
    {rest : List UInt8} (delimited : Delimited rest) :
    readNumber true (encode (Nat.toDigits 10 value) ++ rest) = .ok (.integer (-value), rest) := by
  refine readNumber_ok_iff.mpr ⟨_, read_toDigits true value delimited, ?_⟩
  simp [Literal.value?, Literal.integer?, natOfDigits_toDigits, positive, most]

theorem readScalar_natural (origin : Origin) {value : Nat} (most : value < 0x10000000000000000)
    {rest : List UInt8} (delimited : Delimited rest) :
    readScalar origin (encode (Nat.toDigits 10 value) ++ rest) = .ok (.integer value, rest) := by
  have read := readNumber_natural most delimited
  obtain ⟨first, others, digits⟩ := List.exists_cons_of_ne_nil
    (Nat.toDigits_ne_nil (n := value) (b := 10))
  have digit : first.isDigit = true :=
    Nat.isDigit_of_mem_toDigits (b := 10) (n := value) (by decide) (by decide) (by simp [digits])
  obtain ⟨encoded, meant⟩ := digit?_of_isDigit digit
  rw [digits, encode_cons, encoded, List.append_assoc, List.singleton_append] at read ⊢
  rw [readScalar_digit origin (by simp [isDigit, meant])]
  exact read

theorem readScalar_integer (origin : Origin) {value : Int} (least : -0x8000000000000000 ≤ value)
    (most : value < 0x10000000000000000) {rest : List UInt8} (delimited : Delimited rest) :
    readScalar origin (encode (toString value).toList ++ rest) = .ok (.integer value, rest) := by
  change readScalar origin (encode value.repr.toList ++ rest) = _
  rw [Int.repr_eq_if]
  split
  · rename_i nonnegative
    lift value to Nat using nonnegative
    rw [Int.toNat_natCast, Nat.toList_repr]
    exact readScalar_natural origin (by omega) delimited
  · obtain ⟨size, rfl⟩ := Int.exists_eq_neg_ofNat (show value ≤ 0 by omega)
    rw [Int.neg_neg, Int.toNat_natCast, String.toList_append, Nat.toList_repr]
    exact readNumber_negative (by omega) (by omega) delimited

theorem readScalar_written (origin : Origin) {tree : Tree} {text : List Char}
    (written : WrittenScalar tree text) {rest : List UInt8} (delimited : Delimited rest) :
    readScalar origin (encode text ++ rest) = .ok (tree.value, rest) := by
  cases written with
  | null => rfl
  | true => rfl
  | false => rfl
  | integer least most => exact readScalar_integer origin least most delimited
  | @string content text written =>
      obtain ⟨start, begins, read⟩ := readString_written origin written rest
      rw [begins]
      simp [readScalar, read, bind, Except.bind, pure, Except.pure, Tree.value]

end Throughput.Json
