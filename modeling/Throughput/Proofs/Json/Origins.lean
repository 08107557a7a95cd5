import Throughput.Proofs.Json.StringToken

/-!
A well-formed text is read alike from memory and from a stream. The strings in it are well-formed,
so that checking them one by one finds nothing that the text as a whole would not have shown.
-/

namespace Throughput.Json

open Utf8

def Alike {α : Type} (reader other : Reader α) : Prop :=
  ∀ ⦃input⦄, WellFormed input → reader input = other input

theorem content?_alike {content : List UInt8} (formed : WellFormed content) :
    Origin.text.content? content = Origin.stream.content? content := by
  obtain ⟨text, valid⟩ := formed.text?
  change some (trusted content) = text? content
  rw [valid, trusted_eq_of_text? valid]

theorem alike_readString : Alike (readString .text) (readString .stream) := by
  intro input formed
  unfold readString
  apply bind_congr_of_ok
  rintro ⟨content, rest⟩ read
  have token : StringToken.Formed .outside [] input := formed
  dsimp only
  rw [content?_alike (StringToken.readBytes_formed token read).1]

theorem alike_readScalar : Alike (readScalar .text) (readScalar .stream) := by
  intro input formed
  unfold readScalar
  split
  · rfl
  · split
    case h_5 =>
      rw [alike_readString (formed.tail (by decide))]
    all_goals rfl

section Parts

variable {α : Type} {item other : Reader α}

theorem alike_readMoreItems (each : Alike item other) (kept : Keeps other WellFormed)
    (budget : List UInt8) : Alike (readMoreItems item budget) (readMoreItems other budget) := by
  induction budget with
  | nil => exact fun _ _ => rfl
  | cons _ budget ih =>
      intro input formed
      have start := lasting_wellFormed.skipBlanks formed
      unfold readMoreItems
      split
      · rfl
      · rfl
      · rename_i after found
        rw [found] at start
        have next := lasting_wellFormed.skipBlanks (start.tail (by decide))
        split
        · rfl
        · rfl
        · rw [each next]
          apply bind_congr_of_ok
          rintro ⟨first, middle⟩ read
          dsimp only
          rw [ih (kept read next)]
      · rfl

theorem alike_readItems (each : Alike item other) (kept : Keeps other WellFormed) :
    Alike (readItems item) (readItems other) := by
  intro input formed
  have start := lasting_wellFormed.skipBlanks formed
  unfold readItems
  split
  · rfl
  · rfl
  · rw [each start]
    apply bind_congr_of_ok
    rintro ⟨first, middle⟩ read
    dsimp only
    rw [alike_readMoreItems each kept _ (kept read start)]

variable {value other : Reader Value}

theorem alike_readMember (each : Alike value other) :
    Alike (readMember .text value) (readMember .stream other) := by
  intro input formed
  unfold readMember
  rw [alike_readString formed]
  apply bind_congr_of_ok
  rintro ⟨key, afterKey⟩ read
  have start := lasting_wellFormed.skipBlanks (keeps_readString lasting_wellFormed read formed)
  dsimp only
  split
  · rfl
  · rename_i after found
    rw [found] at start
    rw [each (lasting_wellFormed.skipBlanks (start.tail (by decide)))]
  · rfl

theorem alike_readMoreMembers (each : Alike value other) (kept : Keeps other WellFormed)
    (budget : List UInt8) :
    Alike (readMoreMembers .text value budget) (readMoreMembers .stream other budget) := by
  induction budget with
  | nil => exact fun _ _ => rfl
  | cons _ budget ih =>
      intro input formed
      have start := lasting_wellFormed.skipBlanks formed
      unfold readMoreMembers
      split
      · rfl
      · rfl
      · rename_i after found
        rw [found] at start
        have next := lasting_wellFormed.skipBlanks (start.tail (by decide))
        split
        · rfl
        · rename_i quoted
          rw [quoted] at next
          have member := next.tail (by decide)
          rw [alike_readMember each member]
          apply bind_congr_of_ok
          rintro ⟨first, middle⟩ read
          dsimp only
          rw [ih (keeps_readMember lasting_wellFormed kept read member)]
        · rfl
        · rfl
      · rfl

theorem alike_readMembers (each : Alike value other) (kept : Keeps other WellFormed) :
    Alike (readMembers .text value) (readMembers .stream other) := by
  intro input formed
  have start := lasting_wellFormed.skipBlanks formed
  unfold readMembers
  split
  · rfl
  · rfl
  · rename_i after found
    rw [found] at start
    have member := start.tail (by decide)
    rw [alike_readMember each member]
    apply bind_congr_of_ok
    rintro ⟨first, middle⟩ read
    dsimp only
    rw [alike_readMoreMembers each kept _ (keeps_readMember lasting_wellFormed kept read member)]
  · rfl

end Parts

theorem alike_readValue (depth : Nat) :
    Alike (readValue .text depth) (readValue .stream depth) := by
  induction depth with
  | zero =>
      intro input formed
      unfold readValue
      split
      · rfl
      · rfl
      · exact alike_readScalar formed
  | succ depth ih =>
      have kept : Keeps (readValue .stream depth) WellFormed :=
        keeps_readValue lasting_wellFormed depth
      intro input formed
      unfold readValue
      split
      · rw [alike_readItems ih kept (formed.tail (by decide))]
      · rw [alike_readMembers ih kept (formed.tail (by decide))]
      · exact alike_readScalar formed

theorem alike_refuse {α : Type} (expected : Expected) :
    Alike (refuse .text expected : Reader α) (refuse .stream expected) := by
  intro input formed
  unfold refuse
  split
  · rfl
  · rfl
  · rw [alike_readScalar formed]

theorem alike_readRecord : Alike (readRecord .text) (readRecord .stream) := by
  intro input formed
  unfold readRecord
  split
  · rw [alike_readMembers (alike_readValue _) (keeps_readValue lasting_wellFormed _)
      (formed.tail (by decide))]
  · exact alike_refuse .map formed

theorem alike_readRecords : Alike (readRecords .text) (readRecords .stream) := by
  intro input formed
  have start := lasting_wellFormed.skipBlanks formed
  unfold readRecords
  split
  · rename_i found
    rw [found] at start
    exact alike_readItems alike_readRecord (keeps_readRecord lasting_wellFormed)
      (start.tail (by decide))
  · exact alike_refuse .sequence start

theorem readLog_alike {input : List UInt8} (formed : WellFormed input) :
    readLog .text input = readLog .stream input := by
  unfold readLog
  rw [alike_readRecords formed]

end Throughput.Json
