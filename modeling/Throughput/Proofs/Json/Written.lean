import Mathlib.Data.List.Forall2
import Throughput.Json.Value

/-!
JSON as it is written. `WrittenLog` relates the records of a log to every text that stands for
them: members in any order and with repeated keys, characters spelled as themselves or as escapes,
and white space between any two tokens.
-/

namespace Throughput.Json

inductive Tree
  | null
  | boolean (value : Bool)
  | integer (value : Int)
  | string (text : String)
  | array (items : List Tree)
  | object (members : List (String × Tree))

mutual

def Tree.value : Tree → Value
  | .null => .null
  | .boolean value => .boolean value
  | .integer value => .integer value
  | .string text => .string text
  | .array items => .array (Tree.values items)
  | .object members => .object (Object.ofMembers (Tree.members members))

def Tree.values : List Tree → List Value
  | [] => []
  | tree :: rest => tree.value :: Tree.values rest

def Tree.members : List (String × Tree) → List (String × Value)
  | [] => []
  | (key, tree) :: rest => (key, tree.value) :: Tree.members rest

end

theorem Tree.values_eq_map (items : List Tree) : values items = items.map value := by
  induction items with
  | nil => rfl
  | cons tree rest ih => rw [values, ih, List.map_cons]

def Tree.member (held : String × Tree) : String × Value := (held.1, held.2.value)

theorem Tree.members_eq_map (held : List (String × Tree)) :
    members held = held.map member := by
  induction held with
  | nil => rfl
  | cons member rest ih =>
      rw [members, ih]
      rfl

def Whitespace (text : List Char) : Prop :=
  ∀ character ∈ text, character ∈ [' ', '\n', '\r', '\t']

/-! Strings. -/

def HexDigit (value : Nat) (character : Char) : Prop :=
  value < 16 ∧ (character = value.digitChar ∨ character = value.digitChar.toUpper)

def HexUnit (code : Nat) (text : List Char) : Prop :=
  List.Forall₂ HexDigit [code / 0x1000, code / 0x100 % 16, code / 0x10 % 16, code % 16] text

def shortEscapes : List (Char × Char) :=
  [('"', '"'), ('\\', '\\'), ('/', '/'), ('b', '\x08'), ('f', '\x0C'), ('n', '\n'), ('r', '\r'),
    ('t', '\t')]

inductive Spells (character : Char) : List Char → Prop
  | plain (printable : 0x20 ≤ character.toNat) (noQuote : character ≠ '"')
      (noEscape : character ≠ '\\') : Spells character [character]
  | short {letter : Char} (listed : (letter, character) ∈ shortEscapes) :
      Spells character ['\\', letter]
  | unit {digits : List Char} (unit : HexUnit character.toNat digits) :
      Spells character ('\\' :: 'u' :: digits)
  | pair {high low : Nat} {first second : List Char}
      (code : character.toNat = 0x10000 + high * 0x400 + low) (inRange : low < 0x400)
      (highUnit : HexUnit (0xD800 + high) first) (lowUnit : HexUnit (0xDC00 + low) second) :
      Spells character ('\\' :: 'u' :: first ++ '\\' :: 'u' :: second)

inductive SpellsAll : List Char → List Char → Prop
  | nil : SpellsAll [] []
  | cons {character : Char} {characters spelled rest : List Char}
      (first : Spells character spelled) (others : SpellsAll characters rest) :
      SpellsAll (character :: characters) (spelled ++ rest)

theorem SpellsAll.append {first later spelled rest : List Char} (start : SpellsAll first spelled)
    (others : SpellsAll later rest) : SpellsAll (first ++ later) (spelled ++ rest) := by
  induction start with
  | nil => exact others
  | cons character _ ih =>
      rw [List.cons_append, List.append_assoc]
      exact .cons character ih

theorem spellsAll_plain (text : List Char)
    (plain : (text.all fun character =>
      0x20 ≤ character.toNat ∧ character ≠ '"' ∧ character ≠ '\\') = true) :
    SpellsAll text text := by
  induction text with
  | nil => exact .nil
  | cons character rest ih =>
      rw [List.all_cons, Bool.and_eq_true, decide_eq_true_eq] at plain
      obtain ⟨⟨printable, noQuote, noEscape⟩, others⟩ := plain
      exact .cons (.plain printable noQuote noEscape) (ih others)

def WrittenString (text : String) (written : List Char) : Prop :=
  ∃ spelled, SpellsAll text.toList spelled ∧ written = '"' :: spelled ++ ['"']

/-! Values. -/

inductive WrittenScalar : Tree → List Char → Prop
  | null : WrittenScalar .null "null".toList
  | true : WrittenScalar (.boolean true) "true".toList
  | false : WrittenScalar (.boolean false) "false".toList
  | integer {value : Int} (least : -0x8000000000000000 ≤ value)
      (most : value < 0x10000000000000000) :
      WrittenScalar (.integer value) (toString value).toList
  | string {text : String} {written : List Char} (content : WrittenString text written) :
      WrittenScalar (.string text) written

section Containers

variable {α : Type}

inductive Continued (part : α → List Char → Prop) : List α → List Char → Prop
  | none : Continued part [] []
  | more {value : α} {others : List α} {before after text rest : List Char}
      (spaced : Whitespace before) (spacedAfter : Whitespace after) (first : part value text)
      (continued : Continued part others rest) :
      Continued part (value :: others) (before ++ ',' :: after ++ text ++ rest)

inductive Enclosed (part : α → List Char → Prop) (opening closing : Char) :
    List α → List Char → Prop
  | empty {blanks : List Char} (spaced : Whitespace blanks) :
      Enclosed part opening closing [] (opening :: blanks ++ [closing])
  | full {value : α} {others : List α} {before text rest after : List Char}
      (spaced : Whitespace before) (first : part value text)
      (continued : Continued part others rest) (spacedAfter : Whitespace after) :
      Enclosed part opening closing (value :: others)
        (opening :: before ++ text ++ rest ++ after ++ [closing])

end Containers

def WrittenMember (held : Tree → List Char → Prop) (member : String × Tree) (text : List Char) :
    Prop :=
  ∃ key before after written, WrittenString member.1 key ∧ Whitespace before ∧ Whitespace after ∧
    held member.2 written ∧ text = key ++ before ++ ':' :: after ++ written

/-- A value with at most the given number of levels of containers. -/
def Written : Nat → Tree → List Char → Prop
  | 0, tree, text => WrittenScalar tree text
  | depth + 1, tree, text =>
    WrittenScalar tree text ∨
      (∃ items, tree = .array items ∧ Enclosed (Written depth) '[' ']' items text) ∨
      ∃ members, tree = .object members ∧
        Enclosed (WrittenMember (Written depth)) '{' '}' members text

theorem WrittenScalar.written {tree : Tree} {text : List Char} (scalar : WrittenScalar tree text)
    (depth : Nat) : Written depth tree text := by
  cases depth with
  | zero => exact scalar
  | succ depth => exact .inl scalar

def WrittenLog (records : List (List (String × Tree))) (text : List Char) : Prop :=
  ∃ before log after, Whitespace before ∧ Written 127 (.array (records.map .object)) log ∧
    Whitespace after ∧ text = before ++ log ++ after

end Throughput.Json
