import Throughput.Text.Utf8

/-!
Well-formed bytes are the encodings of characters. A byte below 0x80 is a character of its own,
so that well-formed bytes can be taken apart at such a byte and nowhere inside a longer character.
-/

namespace Throughput.Utf8

def encode (characters : List Char) : List UInt8 := characters.flatMap String.utf8EncodeChar

theorem encode_cons (character : Char) (rest : List Char) :
    encode (character :: rest) = String.utf8EncodeChar character ++ encode rest := rfl

theorem encode_nil : encode [] = [] := rfl

theorem encode_append (first rest : List Char) :
    encode (first ++ rest) = encode first ++ encode rest :=
  List.flatMap_append

theorem utf8Encode_eq (characters : List Char) :
    characters.utf8Encode = ⟨(encode characters).toArray⟩ := by
  apply ByteArray.ext
  exact List.data_toByteArray

theorem bytes_eq_encode (text : String) : bytes text = encode text.toList := by
  unfold bytes
  rw [String.toUTF8_eq_toByteArray, ← String.utf8Encode_toList, utf8Encode_eq]

theorem bytes_append (first rest : String) : bytes (first ++ rest) = bytes first ++ bytes rest := by
  rw [bytes_eq_encode, bytes_eq_encode, bytes_eq_encode, String.toList_append, encode_append]

theorem text?_encode (characters : List Char) :
    text? (encode characters) = some (String.ofList characters) := by
  unfold text? String.fromUTF8?
  rw [← utf8Encode_eq, dif_pos ByteArray.isValidUTF8_utf8Encode]
  rfl

theorem encode_injective {first other : List Char} (same : encode first = encode other) :
    first = other := by
  have texts : some (String.ofList first) = some (String.ofList other) := by
    rw [← text?_encode, ← text?_encode, same]
  exact String.ofList_injective (Option.some.inj texts)

theorem trusted_eq_of_text? {content : List UInt8} {text : String}
    (valid : text? content = some text) : trusted content = text := by
  unfold trusted
  rw [valid]
  rfl

theorem utf8EncodeChar_ascii {character : Char} (ascii : character.toNat < 0x80) :
    String.utf8EncodeChar character = [UInt8.ofNat character.toNat] :=
  if_pos (Nat.le_of_lt_succ ascii)

/-- A character of more than one byte has no byte below 0x80. -/
theorem not_lt_of_mem_utf8EncodeChar {character : Char} (long : ¬character.toNat < 0x80) :
    ∀ byte ∈ String.utf8EncodeChar character, ¬byte < 0x80 := by
  change ¬character.val.toNat < 0x80 at long
  unfold String.utf8EncodeChar
  dsimp only
  rw [if_neg (by omega)]
  split
  · simp [UInt8.lt_iff_toNat_lt]
    omega
  · split
    · simp [UInt8.lt_iff_toNat_lt]
      omega
    · simp [UInt8.lt_iff_toNat_lt]
      omega

def WellFormed (bytes : List UInt8) : Prop := ∃ characters, bytes = encode characters

theorem wellFormed_bytes (text : String) : WellFormed (bytes text) :=
  ⟨text.toList, bytes_eq_encode text⟩

theorem wellFormed_nil : WellFormed [] := ⟨[], rfl⟩

theorem wellFormed_character (character : Char) : WellFormed (String.utf8EncodeChar character) :=
  ⟨[character], (List.append_nil _).symm⟩

theorem wellFormed_of_lt {byte : UInt8} (ascii : byte < 0x80) : WellFormed [byte] := by
  have bound : byte.toNat < 128 := UInt8.lt_iff_toNat_lt.mp ascii
  have value : (Char.ofNat byte.toNat).toNat = byte.toNat := by
    rw [Char.ofNat, dif_pos (Or.inl (by omega))]
    rfl
  have encoded := utf8EncodeChar_ascii (value ▸ bound)
  rw [value, UInt8.ofNat_toNat] at encoded
  exact encoded ▸ wellFormed_character _

theorem WellFormed.append {first rest : List UInt8} (firstFormed : WellFormed first)
    (restFormed : WellFormed rest) : WellFormed (first ++ rest) := by
  obtain ⟨characters, rfl⟩ := firstFormed
  obtain ⟨more, rfl⟩ := restFormed
  exact ⟨characters ++ more, (encode_append _ _).symm⟩

theorem WellFormed.text? {content : List UInt8} (formed : WellFormed content) :
    ∃ text, Utf8.text? content = some text := by
  obtain ⟨characters, rfl⟩ := formed
  exact ⟨_, text?_encode characters⟩

theorem exists_eq_append_of_not_mem {first rest before after : List UInt8} {byte : UInt8}
    (absent : byte ∉ first) (same : before ++ byte :: after = first ++ rest) :
    ∃ middle, before = first ++ middle ∧ rest = middle ++ byte :: after := by
  rcases List.append_eq_append_iff.mp same with ⟨middle, parts, later⟩ | ⟨middle, parts, later⟩
  · cases middle with
    | nil => exact ⟨[], by simp [parts], later.symm⟩
    | cons other middle =>
        cases later
        exact absurd (by simp [parts]) absent
  · exact ⟨middle, parts, later⟩

/-- A byte below 0x80 is a boundary between characters. -/
theorem WellFormed.split {before after : List UInt8} {byte : UInt8} (ascii : byte < 0x80)
    (formed : WellFormed (before ++ byte :: after)) : WellFormed before ∧ WellFormed after := by
  obtain ⟨characters, same⟩ := formed
  induction characters generalizing before with
  | nil => simp [encode] at same
  | cons character rest ih =>
      rw [encode_cons] at same
      have later {middle : List UInt8} (parts : before = String.utf8EncodeChar character ++ middle)
          (same : encode rest = middle ++ byte :: after) :
          WellFormed before ∧ WellFormed after := by
        obtain ⟨middleFormed, afterFormed⟩ := ih same.symm
        rw [parts]
        exact ⟨(wellFormed_character character).append middleFormed, afterFormed⟩
      by_cases short : character.toNat < 0x80
      · have encoded := utf8EncodeChar_ascii short
        rw [encoded, List.singleton_append] at same
        cases before with
        | nil =>
            cases same
            exact ⟨wellFormed_nil, rest, rfl⟩
        | cons first middle =>
            obtain ⟨rfl, others⟩ := List.cons.inj same
            exact later (by rw [encoded, List.singleton_append]) others.symm
      · obtain ⟨middle, parts, same⟩ := exists_eq_append_of_not_mem
          (fun member => not_lt_of_mem_utf8EncodeChar short byte member ascii) same
        exact later parts same

theorem WellFormed.tail {after : List UInt8} {byte : UInt8} (ascii : byte < 0x80)
    (formed : WellFormed (byte :: after)) : WellFormed after := by
  have whole : WellFormed ([] ++ byte :: after) := formed
  exact (whole.split ascii).2

end Throughput.Utf8
