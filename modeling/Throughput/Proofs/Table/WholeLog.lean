import Throughput.Proofs.Json.Extension
import Throughput.Proofs.Json.StringToken
import Throughput.Table.Load

/-!
A log is loaded as a whole or not at all. Nothing but blanks can be cut off an accepted log or
added to it: what is left of one that was cut is no shorter log, and neither is one that goes on.
-/

namespace Throughput

open Utf8

namespace Json

theorem readLog_append_ne_ok {origin : Origin} {input more : List UInt8} {objects : List Object}
    (read : readLog origin input = .ok objects) (added : ¬Blank more) (others : List Object) :
    readLog origin (input ++ more) ≠ .ok others := by
  intro longer
  obtain ⟨rest, readRecords, -⟩ := readLog_ok_iff.mp read
  obtain ⟨remaining, readLonger, blank⟩ := readLog_ok_iff.mp longer
  have extended := closed_readRecords origin readRecords more
  rw [readLonger] at extended
  cases extended
  exact added (skipBlanks_eq_nil_iff.mp blank).right

theorem exists_closing_of_readLog {origin : Origin} {input : List UInt8} {objects : List Object}
    (read : readLog origin input = .ok objects) :
    ∃ body tail, input = body ++ 0x5D :: tail ∧ Blank tail := by
  obtain ⟨rest, readRecords, blank⟩ := readLog_ok_iff.mp read
  obtain ⟨body, parts⟩ :=
    closes_readRecords (lasting_suffix input) readRecords (List.suffix_refl input)
  exact ⟨body, rest, parts.symm, skipBlanks_eq_nil_iff.mp blank⟩

end Json

namespace SampleTable

/-- Rejected as malformed, and not for what its records hold. -/
def IsMalformed (result : Except LoadError SampleTable) : Prop :=
  ∃ cause, result = .error (.malformed cause)

theorem ofInput_isMalformed {origin : Json.Origin} {input : List UInt8}
    (unread : ∀ objects, Json.readLog origin input ≠ .ok objects) :
    IsMalformed (ofInput origin input) := by
  unfold ofInput Json.records
  cases read : Json.readLog origin input with
  | error failure => exact ⟨_, rfl⟩
  | ok objects => exact absurd read (unread objects)

theorem exists_readLog_of_ofInput {origin : Json.Origin} {input : List UInt8} {table : SampleTable}
    (loaded : ofInput origin input = .ok table) :
    ∃ objects, Json.readLog origin input = .ok objects := by
  obtain ⟨objects, read, -⟩ := bind_eq_ok_iff.mp loaded
  exact ⟨objects, mapError_eq_ok_iff.mp (mapError_eq_ok_iff.mp read)⟩

section Ends

variable {origin : Json.Origin} {input : List UInt8} {table : SampleTable}

theorem overrun_isMalformed (loaded : ofInput origin input = .ok table) {more : List UInt8}
    (added : ¬Json.Blank more) : IsMalformed (ofInput origin (input ++ more)) := by
  obtain ⟨objects, read⟩ := exists_readLog_of_ofInput loaded
  exact ofInput_isMalformed fun others => Json.readLog_append_ne_ok read added others

/-- Otherwise the whole log would be an overrun one. -/
theorem truncated_isMalformed {part cut : List UInt8}
    (loaded : ofInput origin (part ++ cut) = .ok table) (needed : ¬Json.Blank cut) :
    IsMalformed (ofInput origin part) := by
  obtain ⟨objects, read⟩ := exists_readLog_of_ofInput loaded
  exact ofInput_isMalformed fun others shorter =>
    Json.readLog_append_ne_ok shorter needed objects read

end Ends

theorem not_blank_of_bracket (cut tail : List UInt8) : ¬Json.Blank (cut ++ 0x5D :: tail) := by
  intro blank
  have bracket := blank 0x5D (by simp)
  simp at bracket

/-- The closing bracket of a text in memory, as a character of the text. -/
theorem exists_closing_of_ofText {text : String} {table : SampleTable}
    (loaded : ofText text = .ok table) :
    ∃ body tail, text = body ++ "]" ++ tail ∧ Json.Blank (bytes tail) := by
  obtain ⟨objects, read⟩ := exists_readLog_of_ofInput loaded
  obtain ⟨before, after, parts, blank⟩ := Json.exists_closing_of_readLog read
  have formed := wellFormed_bytes text
  rw [parts] at formed
  obtain ⟨⟨body, rfl⟩, tail, rfl⟩ := formed.split (by decide)
  refine ⟨String.ofList body, String.ofList tail, ?_, ?_⟩
  · apply String.toList_injective
    apply encode_injective
    rw [← bytes_eq_encode, parts]
    simp [encode_append]
    rfl
  · rw [bytes_eq_encode, String.toList_ofList]
    exact blank

end SampleTable

open SampleTable

/-- An accepted log ends with a closing bracket and blanks. Without the bracket it is malformed,
wherever it breaks off, and with anything but blanks behind it as well. -/
theorem log_loads_whole :
    (∀ text table, ofText text = .ok table →
      ∃ body tail, text = body ++ "]" ++ tail ∧ Json.Blank (bytes tail) ∧
        (∀ part cut, body = part ++ cut → IsMalformed (ofText part)) ∧
        ∀ more, ¬Json.Blank (bytes more) → IsMalformed (ofText (text ++ more))) ∧
    ∀ input table, ofBytes input = .ok table →
      ∃ body tail, input = body ++ 0x5D :: tail ∧ Json.Blank tail ∧
        (∀ part cut, body = part ++ cut → IsMalformed (ofBytes part)) ∧
        ∀ more, ¬Json.Blank more → IsMalformed (ofBytes (input ++ more)) := by
  constructor
  · intro text table loaded
    obtain ⟨body, tail, parts, blank⟩ := exists_closing_of_ofText loaded
    refine ⟨body, tail, parts, blank, ?_, ?_⟩
    · rintro part cut rfl
      have whole : bytes text = bytes part ++ (bytes cut ++ 0x5D :: bytes tail) := by
        rw [parts, bytes_append, bytes_append, bytes_append]
        simp [show bytes "]" = [0x5D] from rfl]
      have accepted : ofInput .text (bytes part ++ (bytes cut ++ 0x5D :: bytes tail)) =
          .ok table := whole ▸ loaded
      exact truncated_isMalformed accepted (not_blank_of_bracket _ _)
    · intro more added
      have longer := overrun_isMalformed loaded added
      rw [← bytes_append] at longer
      exact longer
  · intro input table loaded
    obtain ⟨objects, read⟩ := exists_readLog_of_ofInput loaded
    obtain ⟨body, tail, rfl, blank⟩ := Json.exists_closing_of_readLog read
    refine ⟨body, tail, rfl, blank, ?_, fun more added => overrun_isMalformed loaded added⟩
    rintro part cut rfl
    have accepted : ofInput .stream (part ++ (cut ++ 0x5D :: tail)) = .ok table := by
      rw [← List.append_assoc]
      exact loaded
    exact truncated_isMalformed accepted (not_blank_of_bracket _ _)

theorem closing_unique {body tail body' tail' : List UInt8} (blank : Json.Blank tail)
    (blank' : Json.Blank tail') (same : body ++ 0x5D :: tail = body' ++ 0x5D :: tail') :
    body = body' := by
  rcases List.append_eq_append_iff.mp same with ⟨middle, parts, later⟩ | ⟨middle, parts, later⟩
  · cases middle with
    | nil => simpa using parts.symm
    | cons _ middle =>
        rw [(List.cons.inj later).2] at blank
        exact absurd blank (not_blank_of_bracket _ _)
  · cases middle with
    | nil => simpa using parts
    | cons _ middle =>
        rw [(List.cons.inj later).2] at blank'
        exact absurd blank' (not_blank_of_bracket _ _)

def wholeLog : String := "[\x7b\"Second\":0,\"RateBytes\":1048576\x7d]"

theorem wholeLog_loads_whole :
    (∃ table, ofText wholeLog = .ok table) ∧ IsMalformed (ofText (wholeLog ++ "]")) ∧
      (∃ table, ofBytes (bytes wholeLog) = .ok table) ∧
        IsMalformed (ofBytes (bytes "[\x7b\"Second\":0,\"RateBytes\":1048")) := by
  obtain ⟨-, -, -, -, -, overrun⟩ := log_loads_whole.1 wholeLog _ rfl
  obtain ⟨body, tail, parts, blank, truncated, -⟩ := log_loads_whole.2 (bytes wholeLog) _ rfl
  have closing : bytes wholeLog =
      bytes "[\x7b\"Second\":0,\"RateBytes\":1048576\x7d" ++ 0x5D :: [] := by decide +kernel
  have noBlank : Json.Blank [] := by simp [Json.Blank]
  rw [closing_unique blank noBlank (parts.symm.trans closing)] at truncated
  refine ⟨⟨_, rfl⟩, overrun "]" (not_blank_of_bracket [] []), ⟨_, rfl⟩, ?_⟩
  exact truncated _ (bytes "576\x7d") (by decide +kernel)

end Throughput
