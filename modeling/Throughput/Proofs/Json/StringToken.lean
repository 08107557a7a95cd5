import Throughput.Proofs.Json.Remainder
import Throughput.Proofs.Text.WellFormed

/-!
String tokens in well-formed input. Quotes and backslashes are characters of their own, so that
they cut the input between characters: the content of a token is well-formed, and so is the input
behind it.
-/

namespace Throughput.Json

open Utf8

namespace StringToken

theorem readBytes_suffix {state : EscapeState} {content input result rest : List UInt8}
    (read : readBytes state content input = .ok (result, rest)) : rest <:+ input := by
  induction input generalizing state content with
  | nil => simp [readBytes, fail] at read
  | cons byte input ih =>
      unfold readBytes at read
      split at read
      · cases read
        exact List.suffix_cons _ _
      · exact (ih read).trans (List.suffix_cons _ _)
      · simp [fail] at read

theorem hexDigit?_lt {byte : UInt8} {digit : Nat} (found : hexDigit? byte = some digit) :
    byte < 0x80 := by
  have : (0x80 : UInt8).toNat = 128 := rfl
  rw [UInt8.lt_iff_toNat_lt]
  unfold hexDigit? at found
  dsimp only at found
  split at found
  · omega
  · split at found
    · omega
    · split at found
      · omega
      · cases found

theorem foldlM_hexDigit?_isSome {digits : List UInt8} {start code : Nat}
    (found : digits.foldlM (fun value byte => (hexDigit? byte).map (value * 16 + ·)) start =
      some code) : ∀ byte ∈ digits, (hexDigit? byte).isSome := by
  induction digits generalizing start with
  | nil => simp
  | cons byte digits ih =>
      rw [List.foldlM_cons, Option.bind_eq_bind, Option.bind_eq_some_iff] at found
      obtain ⟨value, first, others⟩ := found
      obtain ⟨digit, read, -⟩ := Option.map_eq_some_iff.mp first
      exact List.forall_mem_cons.mpr ⟨by rw [read]; rfl, ih others⟩

theorem codeUnit?_isSome {digits : List UInt8} {code : Nat}
    (found : codeUnit? digits = some code) : ∀ byte ∈ digits, (hexDigit? byte).isSome :=
  foldlM_hexDigit?_isSome found

theorem simpleEscape?_lt {byte value : UInt8} (found : simpleEscape? byte = some value) :
    byte < 0x80 ∧ value < 0x80 := by
  unfold simpleEscape? at found
  split at found <;> cases found <;> decide

def Formed (state : EscapeState) (content input : List UInt8) : Prop :=
  match state with
  | .outside => WellFormed (content.reverse ++ input)
  | .unit _ digits => WellFormed content.reverse ∧
      (WellFormed input ∨ ∃ byte ∈ digits, hexDigit? byte = none)
  | _ => WellFormed content.reverse ∧ WellFormed input

theorem Formed.append {bytes content input : List UInt8} (held : WellFormed content.reverse)
    (added : WellFormed bytes) (later : WellFormed input) :
    Formed .outside (bytes.reverse ++ content) input := by
  unfold Formed
  rw [List.reverse_append, List.reverse_reverse]
  exact (held.append added).append later

theorem finishUnit_formed {high : Option Nat} {code : Nat} {bytes content input : List UInt8}
    {next : EscapeState} (held : WellFormed content.reverse) (later : WellFormed input)
    (taken : finishUnit high code = .append bytes next) :
    Formed next (bytes.reverse ++ content) input := by
  unfold finishUnit at taken
  split at taken
  · split at taken
    · cases taken
    · split at taken
      · cases taken
        exact ⟨held, later⟩
      · obtain ⟨rfl, rfl⟩ := StringStep.append.inj taken
        exact Formed.append held (wellFormed_character _) later
  · split at taken
    · obtain ⟨rfl, rfl⟩ := StringStep.append.inj taken
      exact Formed.append held (wellFormed_character _) later
    · cases taken

theorem step_formed {state next : EscapeState} {byte : UInt8} {bytes content rest : List UInt8}
    (formed : Formed state content (byte :: rest)) (taken : step state byte = .append bytes next) :
    Formed next (bytes.reverse ++ content) rest := by
  cases state with
  | outside =>
      unfold step at taken
      dsimp only at taken
      split at taken
      · cases taken
      · split at taken
        · rename_i backslash
          subst backslash
          cases taken
          exact WellFormed.split (by decide) formed
        · split at taken
          · cases taken
          · cases taken
            simpa [Formed] using formed
  | backslash =>
      obtain ⟨held, later⟩ := formed
      unfold step at taken
      dsimp only at taken
      split at taken
      · rename_i letter
        subst letter
        cases taken
        exact ⟨held, .inl (later.tail (by decide))⟩
      · split at taken
        · rename_i value escaped
          obtain ⟨letter, ascii⟩ := simpleEscape?_lt escaped
          cases taken
          exact Formed.append held (wellFormed_of_lt ascii) (later.tail letter)
        · cases taken
  | unit high digits =>
      obtain ⟨held, later⟩ := formed
      have next : WellFormed rest ∨ ∃ other ∈ digits ++ [byte], hexDigit? other = none := by
        rcases later with later | ⟨other, member, spoilt⟩
        · cases digit : hexDigit? byte with
          | none => exact .inr ⟨byte, by simp, digit⟩
          | some value => exact .inl (later.tail (hexDigit?_lt digit))
        · exact .inr ⟨other, by simp [member], spoilt⟩
      unfold step at taken
      dsimp only at taken
      split at taken
      · cases taken
        exact ⟨held, next⟩
      · split at taken
        · rename_i code found
          rcases next with later | ⟨other, member, spoilt⟩
          · exact finishUnit_formed held later taken
          · have digit := codeUnit?_isSome found other member
            rw [spoilt] at digit
            cases digit
        · cases taken
  | highSurrogate code =>
      obtain ⟨held, later⟩ := formed
      unfold step at taken
      dsimp only at taken
      split at taken
      · rename_i backslash
        subst backslash
        cases taken
        exact ⟨held, later.tail (by decide)⟩
      · cases taken
  | highBackslash code =>
      obtain ⟨held, later⟩ := formed
      unfold step at taken
      dsimp only at taken
      split at taken
      · rename_i letter
        subst letter
        cases taken
        exact ⟨held, .inl (later.tail (by decide))⟩
      · cases taken

theorem finishUnit_ne_close (high : Option Nat) (code : Nat) : finishUnit high code ≠ .close := by
  intro closed
  unfold finishUnit at closed
  split at closed
  · split at closed
    · cases closed
    · split at closed
      · cases closed
      · cases closed
  · split at closed
    · cases closed
    · cases closed

/-- Only a quote outside of every escape ends a token. -/
theorem eq_of_step_close {state : EscapeState} {byte : UInt8} (closed : step state byte = .close) :
    state = .outside ∧ byte = 0x22 := by
  cases state with
  | outside =>
      unfold step at closed
      dsimp only at closed
      split at closed
      · rename_i quote
        exact ⟨rfl, quote⟩
      · split at closed
        · cases closed
        · split at closed
          · cases closed
          · cases closed
  | backslash =>
      unfold step at closed
      dsimp only at closed
      split at closed
      · cases closed
      · split at closed
        · cases closed
        · cases closed
  | unit high digits =>
      unfold step at closed
      dsimp only at closed
      split at closed
      · cases closed
      · split at closed
        · exact absurd closed (finishUnit_ne_close _ _)
        · cases closed
  | highSurrogate code =>
      unfold step at closed
      dsimp only at closed
      split at closed
      · cases closed
      · cases closed
  | highBackslash code =>
      unfold step at closed
      dsimp only at closed
      split at closed
      · cases closed
      · cases closed

theorem readBytes_formed {state : EscapeState} {content input result rest : List UInt8}
    (formed : Formed state content input)
    (read : readBytes state content input = .ok (result, rest)) :
    WellFormed result ∧ WellFormed rest := by
  induction input generalizing state content with
  | nil => simp [readBytes, fail] at read
  | cons byte input ih =>
      unfold readBytes at read
      split at read
      · rename_i closed
        obtain ⟨rfl, rfl⟩ := eq_of_step_close closed
        cases read
        exact WellFormed.split (by decide) formed
      · rename_i taken
        exact ih (step_formed formed taken) read
      · simp [fail] at read

end StringToken

theorem lasting_suffix (whole : List UInt8) : Lasting (· <:+ whole) where
  tail := fun _ suffix => (List.suffix_cons _ _).trans suffix
  token := fun read suffix => (StringToken.readBytes_suffix read).trans suffix

theorem lasting_wellFormed : Lasting WellFormed where
  tail := fun ascii formed => formed.tail ascii
  token := fun {input} _ _ read formed =>
    (StringToken.readBytes_formed (show StringToken.Formed .outside [] input from formed) read).2

end Throughput.Json
