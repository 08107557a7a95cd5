import Throughput.Proofs.Json.Tokens

/-!
Reading of logs as they are written. A container is read part by part: whatever reads each of its
parts makes the loop over the parts read all of them, and the budget of the loop suffices.
-/

namespace Throughput.Json

open Utf8

theorem blank_encode {text : List Char} (spaced : Whitespace text) : Blank (encode text) := by
  intro byte member
  obtain ⟨character, held, encoded⟩ := List.mem_flatMap.mp member
  have listed := spaced character held
  simp only [List.mem_cons, List.not_mem_nil, or_false] at listed
  rcases listed with rfl | rfl | rfl | rfl
  all_goals
    obtain rfl := List.mem_singleton.mp encoded
    decide

theorem skipBlanks_encode {text : List Char} (spaced : Whitespace text) (rest : List UInt8) :
    skipBlanks (encode text ++ rest) = skipBlanks rest :=
  List.dropWhile_append_of_pos fun byte member =>
    (isBlankByte_iff byte).mpr (blank_encode spaced byte member)

theorem skipBlanks_of_solid {byte : UInt8} (solid : isBlankByte byte = false)
    (rest : List UInt8) : skipBlanks (byte :: rest) = byte :: rest :=
  List.dropWhile_cons_of_neg (by simp [solid])

theorem delimited_whitespace {text : List Char} (spaced : Whitespace text) {rest : List UInt8}
    (delimited : Delimited rest) : Delimited (encode text ++ rest) := by
  have blank := blank_encode spaced
  generalize encode text = blanks at blank ⊢
  cases blanks with
  | nil => exact delimited
  | cons byte more =>
      intro first member
      obtain rfl : byte = first := by simpa using member
      exact List.mem_append_left [0x2C, 0x5D, 0x7D] (blank byte List.mem_cons_self)

section Loops

variable {α β : Type} {part : α → List Char → Prop} {meaning : α → β} {close : UInt8}
  {whole : Reader (List β)} {more : List UInt8 → Reader (List β)}

structure Gathers (part : α → List Char → Prop) (meaning : α → β) (close : UInt8)
    (whole : Reader (List β)) (more : List UInt8 → Reader (List β)) : Prop where
  closes : close = 0x5D ∨ close = 0x7D
  empty {input rest : List UInt8} (found : skipBlanks input = close :: rest) :
    whole input = .ok ([], rest)
  start {input middle rest : List UInt8} {value : α} {text : List Char} {others : List β}
    (written : part value text) (delimited : Delimited middle)
    (found : skipBlanks input = skipBlanks (encode text ++ middle))
    (later : more (0 :: middle) middle = .ok (others, rest)) :
    whole input = .ok (meaning value :: others, rest)
  stop {unit : UInt8} {budget input rest : List UInt8}
    (found : skipBlanks input = close :: rest) : more (unit :: budget) input = .ok ([], rest)
  next {unit : UInt8} {budget input after middle rest : List UInt8} {value : α} {text : List Char}
    {others : List β} (written : part value text) (delimited : Delimited middle)
    (comma : skipBlanks input = 0x2C :: after)
    (found : skipBlanks after = skipBlanks (encode text ++ middle))
    (later : more budget middle = .ok (others, rest)) :
    more (unit :: budget) input = .ok (meaning value :: others, rest)

theorem Gathers.solid (loop : Gathers part meaning close whole more) (rest : List UInt8) :
    skipBlanks (close :: rest) = close :: rest ∧ Delimited (close :: rest) := by
  rcases loop.closes with rfl | rfl
  · exact ⟨skipBlanks_of_solid rfl rest, by simp [Delimited]⟩
  · exact ⟨skipBlanks_of_solid rfl rest, by simp [Delimited]⟩

theorem encode_more (before after text others : List Char) (rest : List UInt8) :
    encode (before ++ ',' :: after ++ text ++ others) ++ rest =
      encode before ++ 0x2C :: (encode after ++ (encode text ++ (encode others ++ rest))) := by
  simp only [encode_append, List.append_assoc]
  rfl

theorem Continued.length_le {others : List α} {text : List Char}
    (continued : Continued part others text) : others.length ≤ (encode text).length := by
  induction continued with
  | none => simp
  | @more value others before after text rest spaced spacedAfter first continued ih =>
      have parts := encode_more before after text rest []
      rw [List.append_nil, List.append_nil] at parts
      rw [parts]
      simp only [List.length_append, List.length_cons]
      omega

theorem Continued.delimited {others : List α} {text : List Char}
    (continued : Continued part others text) {rest : List UInt8} (delimited : Delimited rest) :
    Delimited (encode text ++ rest) := by
  cases continued with
  | none => exact delimited
  | more spaced spacedAfter first continued =>
      rw [encode_more]
      exact delimited_whitespace spaced (by simp [Delimited])

/-- The rest of a container, from behind one of its parts to its closing bracket. -/
theorem Gathers.continued (loop : Gathers part meaning close whole more) {others : List α}
    {text after : List Char} (continued : Continued part others text) (spaced : Whitespace after)
    {budget : List UInt8} (room : others.length < budget.length) (rest : List UInt8) :
    more budget (encode text ++ (encode after ++ close :: rest)) =
      .ok (others.map meaning, rest) := by
  obtain ⟨closing, delimited⟩ := loop.solid rest
  obtain ⟨unit, budget, rfl⟩ := List.exists_cons_of_length_pos (Nat.zero_lt_of_lt room)
  induction continued generalizing unit budget with
  | none =>
      apply loop.stop
      rw [encode_nil, List.nil_append, skipBlanks_encode spaced, closing]
  | @more value others before afterComma text rest' spacedBefore spacedAfter first continued ih =>
      have room' : others.length < budget.length := by simpa using room
      obtain ⟨unit', budget, rfl⟩ := List.exists_cons_of_length_pos (Nat.zero_lt_of_lt room')
      rw [encode_more]
      refine loop.next first (continued.delimited (delimited_whitespace spaced delimited)) ?_
        (skipBlanks_encode spacedAfter _) (ih unit' budget room')
      rw [skipBlanks_encode spacedBefore]
      exact skipBlanks_of_solid rfl _

theorem Gathers.enclosed (loop : Gathers part meaning close whole more) {opening closing : Char}
    {byte : UInt8} (opens : String.utf8EncodeChar opening = [byte])
    (closes : String.utf8EncodeChar closing = [close]) {values : List α} {text : List Char}
    (enclosed : Enclosed part opening closing values text) (rest : List UInt8) :
    ∃ start, encode text ++ rest = byte :: start ∧
      whole start = .ok (values.map meaning, rest) := by
  obtain ⟨solid, delimited⟩ := loop.solid rest
  cases enclosed with
  | @empty blanks spaced =>
      refine ⟨encode blanks ++ close :: rest, ?_, loop.empty ?_⟩
      · simp [encode_append, encode_cons, opens, closes, encode_nil]
      · rw [skipBlanks_encode spaced, solid]
  | @full value others before text later after spaced first continued spacedAfter =>
      refine ⟨encode before ++ (encode text ++ (encode later ++ (encode after ++ close :: rest))),
        ?_, ?_⟩
      · simp [encode_append, encode_cons, opens, closes, encode_nil]
      · refine loop.start first (continued.delimited (delimited_whitespace spacedAfter delimited))
          (skipBlanks_encode spaced _) (loop.continued continued spacedAfter ?_ rest)
        have room := continued.length_le
        simp only [List.length_cons, List.length_append]
        omega

end Loops

/-- A reader gives the meaning of each part from the start of the part on, and no blank or closing
bracket can be taken for the start of one. -/
def Reads {α β : Type} (reader : Reader β) (meaning : α → β)
    (part : α → List Char → Prop) : Prop :=
  ∀ (value : α) (text : List Char), part value text → ∀ rest : List UInt8, Delimited rest →
    ∃ byte start, encode text ++ rest = byte :: start ∧ isBlankByte byte = false ∧ byte ≠ 0x5D ∧
      reader (byte :: start) = .ok (meaning value, rest)

theorem gathers_items {α β : Type} {item : Reader β} {meaning : α → β}
    {part : α → List Char → Prop} (reads : Reads item meaning part) :
    Gathers part meaning 0x5D (readItems item) (readMoreItems item) where
  closes := .inl rfl
  empty found := readItems_ok_iff.mpr (.inl ⟨found, rfl⟩)
  stop found := readMoreItems_ok_iff.mpr (.inl ⟨found, rfl⟩)
  start written delimited found later := by
    obtain ⟨byte, start, begins, solid, other, read⟩ := reads _ _ written _ delimited
    rw [begins, skipBlanks_of_solid solid] at found
    exact readItems_ok_iff.mpr (.inr ⟨byte, start, _, _, _, found, other, read, later, rfl⟩)
  next written delimited comma found later := by
    obtain ⟨byte, start, begins, solid, other, read⟩ := reads _ _ written _ delimited
    rw [begins, skipBlanks_of_solid solid] at found
    exact readMoreItems_ok_iff.mpr
      (.inr ⟨_, byte, start, _, _, _, comma, found, other, read, later, rfl⟩)

section Objects

variable {value : Reader Value} {held : Tree → List Char → Prop}

theorem readMember_written (origin : Origin) (reads : Reads value Tree.value held)
    {member : String × Tree} {text : List Char} (written : WrittenMember held member text)
    {rest : List UInt8} (delimited : Delimited rest) :
    ∃ start, encode text ++ rest = 0x22 :: start ∧
      readMember origin value start = .ok (Tree.member member, rest) := by
  obtain ⟨key, before, after, shown, writtenKey, spaced, spacedAfter, writtenValue, rfl⟩ := written
  obtain ⟨byte, inner, begins, solid, -, readHeld⟩ := reads _ _ writtenValue _ delimited
  obtain ⟨start, quoted, readKey⟩ := readString_written origin writtenKey
    (encode before ++ 0x3A :: (encode after ++ (encode shown ++ rest)))
  refine ⟨start, ?_, readMember_ok_iff.mpr
    ⟨_, encode after ++ (encode shown ++ rest), readKey, ?_, ?_⟩⟩
  · rw [← quoted]
    simp only [encode_append, List.append_assoc]
    rfl
  · rw [skipBlanks_encode spaced]
    exact skipBlanks_of_solid rfl _
  · rw [skipBlanks_encode spacedAfter, begins, skipBlanks_of_solid solid]
    exact readHeld

theorem gathers_members (origin : Origin) (reads : Reads value Tree.value held) :
    Gathers (WrittenMember held) Tree.member 0x7D (readMembers origin value)
      (readMoreMembers origin value) where
  closes := .inr rfl
  empty found := readMembers_ok_iff.mpr (.inl ⟨found, rfl⟩)
  stop found := readMoreMembers_ok_iff.mpr (.inl ⟨found, rfl⟩)
  start written delimited found later := by
    obtain ⟨start, begins, read⟩ := readMember_written origin reads written delimited
    rw [begins, skipBlanks_of_solid rfl] at found
    exact readMembers_ok_iff.mpr (.inr ⟨start, _, _, _, found, read, later, rfl⟩)
  next written delimited comma found later := by
    obtain ⟨start, begins, read⟩ := readMember_written origin reads written delimited
    rw [begins, skipBlanks_of_solid rfl] at found
    exact readMoreMembers_ok_iff.mpr (.inr ⟨_, start, _, _, _, comma, found, read, later, rfl⟩)

end Objects

/-- No scalar begins with a blank or a closing bracket. -/
theorem readScalar_head {origin : Origin} {input : List UInt8} {result : Value × List UInt8}
    (read : readScalar origin input = .ok result) :
    ∃ byte start, input = byte :: start ∧ isBlankByte byte = false ∧ byte ≠ 0x5D := by
  cases input with
  | nil => cases read
  | cons byte start =>
      refine ⟨byte, start, rfl, Bool.eq_false_iff.mpr fun blank => ?_, ?_⟩
      · have listed := (isBlankByte_iff byte).mp blank
        simp only [List.mem_cons, List.not_mem_nil, or_false] at listed
        rcases listed with rfl | rfl | rfl | rfl <;> cases read
      · rintro rfl
        cases read

theorem reads_readValue (origin : Origin) (depth : Nat) :
    Reads (readValue origin depth) Tree.value (Written depth) := by
  -- At every depth a scalar is read as such, so that its case comes before the induction.
  have scalar {depth : Nat} {tree : Tree} {text : List Char} (written : WrittenScalar tree text)
      {rest : List UInt8} (delimited : Delimited rest) :
      ∃ byte start, encode text ++ rest = byte :: start ∧ isBlankByte byte = false ∧
        byte ≠ 0x5D ∧ readValue origin depth (byte :: start) = .ok (tree.value, rest) := by
    have read := readScalar_written origin written delimited
    obtain ⟨byte, start, begins, solid, other⟩ := readScalar_head read
    rw [begins] at read
    exact ⟨byte, start, begins, solid, other, readValue_ok_iff.mpr (.inr (.inr read))⟩
  induction depth with
  | zero => exact fun _ _ written _ delimited => scalar written delimited
  | succ depth ih =>
      rintro tree text (written | ⟨items, rfl, enclosed⟩ | ⟨members, rfl, enclosed⟩) rest delimited
      · exact scalar written delimited
      · obtain ⟨start, begins, read⟩ := (gathers_items ih).enclosed rfl rfl enclosed rest
        refine ⟨0x5B, start, begins, rfl, by decide, ?_⟩
        rw [Tree.value, Tree.values_eq_map]
        exact readValue_ok_iff.mpr (.inl ⟨depth, start, _, rfl, rfl, read, rfl⟩)
      · obtain ⟨start, begins, read⟩ :=
          (gathers_members origin ih).enclosed rfl rfl enclosed rest
        refine ⟨0x7B, start, begins, rfl, by decide, ?_⟩
        rw [Tree.value, Tree.members_eq_map]
        exact readValue_ok_iff.mpr (.inr (.inl ⟨depth, start, _, rfl, rfl, read, rfl⟩))

/-! Logs. -/

def Tree.record (members : List (String × Tree)) : Object :=
  Object.ofMembers (members.map member)

theorem reads_readRecord (origin : Origin) :
    Reads (readRecord origin) Tree.record fun members => Written 126 (.object members) := by
  rintro members text (written | ⟨items, other, -⟩ | ⟨held, same, enclosed⟩) rest delimited
  · cases written
  · cases other
  · cases same
    obtain ⟨start, begins, read⟩ :=
      (gathers_members origin (reads_readValue origin 125)).enclosed rfl rfl enclosed rest
    exact ⟨0x7B, start, begins, rfl, by decide, readRecord_ok_iff.mpr ⟨start, _, rfl, read, rfl⟩⟩

section Maps

variable {α β : Type} {part : β → List Char → Prop} {form : α → β} {values : List α}
  {text : List Char}

theorem Continued.of_map (continued : Continued part (values.map form) text) :
    Continued (fun value => part (form value)) values text := by
  generalize mapped : values.map form = images at continued
  induction continued generalizing values with
  | none =>
      obtain rfl := List.map_eq_nil_iff.mp mapped
      exact .none
  | more spaced spacedAfter first continued ih =>
      obtain ⟨value, others, rfl, rfl, rest⟩ := List.map_eq_cons_iff.mp mapped
      exact .more spaced spacedAfter first (ih rest)

theorem Enclosed.of_map {opening closing : Char}
    (enclosed : Enclosed part opening closing (values.map form) text) :
    Enclosed (fun value => part (form value)) opening closing values text := by
  generalize mapped : values.map form = images at enclosed
  cases enclosed with
  | empty spaced =>
      obtain rfl := List.map_eq_nil_iff.mp mapped
      exact .empty spaced
  | full spaced first continued spacedAfter =>
      obtain ⟨value, others, rfl, rfl, rfl⟩ := List.map_eq_cons_iff.mp mapped
      exact .full spaced first continued.of_map spacedAfter

end Maps

theorem readLog_written (origin : Origin) {records : List (List (String × Tree))}
    {text : List Char} (written : WrittenLog records text) :
    readLog origin (encode text) = .ok (records.map Tree.record) := by
  obtain ⟨before, log, after, spaced, writtenLog, spacedAfter, rfl⟩ := written
  obtain other | ⟨items, same, enclosed⟩ | ⟨members, other, -⟩ := writtenLog
  · cases other
  · cases same
    obtain ⟨start, begins, read⟩ :=
      (gathers_items (reads_readRecord origin)).enclosed rfl rfl enclosed.of_map (encode after)
    refine readLog_ok_iff.mpr ⟨encode after, readRecords_ok_iff.mpr ⟨start, ?_, read⟩, ?_⟩
    · rw [encode_append, encode_append, List.append_assoc, begins, skipBlanks_encode spaced]
      exact skipBlanks_of_solid rfl _
    · exact skipBlanks_eq_nil_iff.mpr (blank_encode spacedAfter)
  · cases other

end Throughput.Json
