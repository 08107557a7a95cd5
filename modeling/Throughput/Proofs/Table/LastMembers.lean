import Mathlib.Data.List.Induction
import Throughput.Proofs.Json.Reading
import Throughput.Proofs.Table.Columns

/-!
A well-formed log means its last members. Of everything that a text says about a record, only the
last member with the key of a column counts, however the text spells and arranges its parts.
-/

namespace Throughput

open Utf8

namespace Json

namespace Object

theorem get?_insert (key other : String) (value : Value) (object : Object) :
    (object.insert key value).get? other =
      if other = key then some value else object.get? other := by
  induction object with
  | nil => rfl
  | cons first rest ih =>
      obtain ⟨name, held⟩ := first
      unfold insert
      split
      · rfl
      · split
        · rename_i same
          subst same
          by_cases chosen : other = key
          · simp [get?, chosen]
          · simp [get?, chosen]
        · rename_i different
          by_cases chosen : other = name
          · subst chosen
            simp [get?, Ne.symm different]
          · simp [get?, chosen, ih]

theorem get?_ofMembers (key : String) (members : List (String × Value)) :
    (ofMembers members).get? key = members.reverse.lookup key := by
  induction members using List.reverseRecOn with
  | nil => rfl
  | append_singleton members last ih =>
      obtain ⟨name, value⟩ := last
      have parts : ofMembers (members ++ [(name, value)]) =
          (ofMembers members).insert name value := by
        simp [ofMembers]
      rw [parts, get?_insert, List.reverse_append, List.reverse_singleton, List.singleton_append,
        List.lookup_cons, ih]
      by_cases chosen : key = name
      · simp [chosen]
      · simp [chosen, beq_false_of_ne chosen]

end Object

def Tree.last? (key : String) (members : List (String × Tree)) : Option Value :=
  (members.reverse.lookup key).map value

theorem Tree.get?_record (key : String) (members : List (String × Tree)) :
    (record members).get? key = last? key members := by
  rw [record, Object.get?_ofMembers, ← List.map_reverse, last?]
  induction members.reverse with
  | nil => rfl
  | cons held rest ih =>
      obtain ⟨name, tree⟩ := held
      rw [List.map_cons, member, List.lookup_cons, List.lookup_cons, ih]
      by_cases chosen : key = name
      · simp [chosen]
      · simp [beq_false_of_ne chosen]

end Json

namespace SampleTable

def lastValues (key : String) (records : List (List (String × Json.Tree))) :
    List (Option Json.Value) :=
  records.map (Json.Tree.last? key)

theorem map_get?_record (key : String) (records : List (List (String × Json.Tree))) :
    (records.map Json.Tree.record).map (·.get? key) = lastValues key records := by
  rw [List.map_map]
  exact List.map_congr_left fun members _ => Json.Tree.get?_record key members

theorem records_written {records : List (List (String × Json.Tree))} {text : String}
    (written : Json.WrittenLog records text.toList) :
    Json.records .text (bytes text) = .ok (records.map Json.Tree.record) := by
  rw [Json.records, bytes_eq_encode, Json.readLog_written .text written]
  rfl

theorem ofText_written {records : List (List (String × Json.Tree))} {text : String}
    (written : Json.WrittenLog records text.toList) :
    ofText text = ofRecords (records.map Json.Tree.record) := by
  rw [ofText, ofInput, records_written written]
  rfl

end SampleTable

open SampleTable

/-- The fields of a well-formed log are the values of the last members of its records. They make
its table, or the error instead of it, and nothing else in its text has an influence. -/
theorem log_loads_last_members (records : List (List (String × Json.Tree))) (text : String)
    (written : Json.WrittenLog records text.toList) :
    Loads (lastValues "Second" records) (lastValues "RateBytes" records) (ofText text) ∧
      (Complete (lastValues "Second" records) ∧ Complete (lastValues "RateBytes" records) ↔
        ∃ table, ofText text = .ok table) ∧
      ∀ others other, Json.WrittenLog others other.toList →
        lastValues "Second" others = lastValues "Second" records →
        lastValues "RateBytes" others = lastValues "RateBytes" records →
        ofText other = ofText text := by
  have loads := ofRecords_loads (Json.records_inRange (records_written written))
  rw [map_get?_record, map_get?_record, ← ofText_written written] at loads
  refine ⟨loads, loads.complete_iff, ?_⟩
  · intro others other writtenOther sameSecond sameRate
    rw [ofText_written writtenOther, ofText_written written]
    apply ofRecords_congr
    · rw [map_get?_record, map_get?_record, sameSecond]
    · rw [map_get?_record, map_get?_record, sameRate]

section Compact

open Json

theorem whitespace_nil : Whitespace [] := by simp [Whitespace]

theorem writtenMember_integer (depth : Nat) {key : String} (value : Int) {text : List Char}
    (spells : SpellsAll key.toList text) (least : -0x8000000000000000 ≤ value)
    (most : value < 0x10000000000000000) :
    WrittenMember (Written depth) (key, .integer value)
      ('"' :: text ++ '"' :: ':' :: (toString value).toList) := by
  refine ⟨'"' :: text ++ ['"'], [], [], (toString value).toList, ⟨text, spells, rfl⟩,
    whitespace_nil, whitespace_nil, (WrittenScalar.integer least most).written depth, ?_⟩
  simp

theorem writtenLog_singleton {members : List (String × Tree)} {text log : List Char}
    (enclosed : Enclosed (WrittenMember (Written 125)) '\x7b' '\x7d' members text)
    (parts : log = '[' :: text ++ [']']) : WrittenLog [members] log := by
  have record : Written 126 (.object members) text := .inr (.inr ⟨members, rfl, enclosed⟩)
  have list : Enclosed (Written 126) '[' ']' [.object members]
      ('[' :: [] ++ text ++ [] ++ [] ++ [']']) :=
    .full whitespace_nil record .none whitespace_nil
  refine ⟨[], log, [], whitespace_nil, .inr (.inl ⟨_, rfl, ?_⟩), whitespace_nil, by simp⟩
  simpa [parts] using list

end Compact

def repeatedLog : String := "[\x7b\"Second\":9, \"Sec\\u006Fnd\":0,\"RateBytes\":1048576\x7d]"

def repeatedRecords : List (List (String × Json.Tree)) :=
  [[("Second", .integer 9), ("Second", .integer 0), ("RateBytes", .integer 1048576)]]

def plainLog : String := "[\x7b\"RateBytes\":1048576,\"Second\":0\x7d]"

def plainRecords : List (List (String × Json.Tree)) :=
  [[("RateBytes", .integer 1048576), ("Second", .integer 0)]]

theorem spellsAll_escaped : Json.SpellsAll "Second".toList "Sec\\u006Fnd".toList := by
  have digits : Json.HexUnit 'o'.toNat ['0', '0', '6', 'F'] :=
    .cons ⟨by decide, .inl rfl⟩ (.cons ⟨by decide, .inl rfl⟩
      (.cons ⟨by decide, .inl rfl⟩ (.cons ⟨by decide, .inr rfl⟩ .nil)))
  exact (Json.spellsAll_plain "Sec".toList (by decide +kernel)).append
    (.cons (.unit digits) (Json.spellsAll_plain "nd".toList (by decide +kernel)))

theorem logs_written : Json.WrittenLog repeatedRecords repeatedLog.toList ∧
    Json.WrittenLog plainRecords plainLog.toList := by
  have second := Json.spellsAll_plain "Second".toList (by decide +kernel)
  have rateBytes := Json.spellsAll_plain "RateBytes".toList (by decide +kernel)
  have space : Json.Whitespace [' '] := by simp [Json.Whitespace]
  have zero (spelled : List Char) (spells : Json.SpellsAll "Second".toList spelled) :=
    writtenMember_integer 125 0 spells (by decide) (by decide)
  have nine := writtenMember_integer 125 9 second (by decide) (by decide)
  have rate := writtenMember_integer 125 1048576 rateBytes (by decide) (by decide)
  constructor
  · exact writtenLog_singleton (.full whitespace_nil nine
      (.more whitespace_nil space (zero _ spellsAll_escaped)
        (.more whitespace_nil whitespace_nil rate .none)) whitespace_nil) (by decide +kernel)
  · exact writtenLog_singleton (.full whitespace_nil rate
      (.more whitespace_nil whitespace_nil (zero _ second) .none) whitespace_nil)
      (by decide +kernel)

theorem repeatedLog_loads_last_member :
    Json.WrittenLog repeatedRecords repeatedLog.toList ∧
      Json.WrittenLog plainRecords plainLog.toList ∧
      Loads [some (.integer 0)] [some (.integer 1048576)] (ofText repeatedLog) ∧
      ofText plainLog = ofText repeatedLog := by
  obtain ⟨repeated, plain⟩ := logs_written
  obtain ⟨loads, -, same⟩ := log_loads_last_members repeatedRecords repeatedLog repeated
  exact ⟨repeated, plain, loads, same plainRecords plainLog plain rfl rfl⟩

end Throughput
