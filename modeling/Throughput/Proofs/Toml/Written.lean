import Mathlib.Data.List.Forall2
import Throughput.Proofs.Binary64.Overflow
import Throughput.Toml.Numbers

/-!
TOML as it is written. `WrittenTables` relates tables under headers to every text that stands for
them: any spelling of characters, names and numbers, spaces between tokens, and blank lines and
comments between lines. What the values of a table stand for is a parameter.
-/

namespace Throughput.Toml

def Spaces (text : List Char) : Prop := ∀ character ∈ text, character ∈ [' ', '\t']

def LineBreak (text : List Char) : Prop := text = ['\n'] ∨ text = ['\r', '\n']

def Printed (character : Char) : Prop :=
  character = '\t' ∨ 0x20 ≤ character.toNat ∧ character.toNat ≠ 0x7F

inductive Comment : List Char → Prop
  | none : Comment []
  | some {content : List Char} (printed : ∀ character ∈ content, Printed character) :
      Comment ('#' :: content)

inductive Filler : List Char → Prop
  | none : Filler []
  | space {blank : Char} {rest : List Char} (spaced : blank ∈ [' ', '\t']) (later : Filler rest) :
      Filler (blank :: rest)
  | line {comment lineBreak rest : List Char} (written : Comment comment)
      (ends : LineBreak lineBreak) (later : Filler rest) : Filler (comment ++ lineBreak ++ rest)

/-! Digits. -/

def Digit (base value : Nat) (character : Char) : Prop :=
  value < base ∧ (character = value.digitChar ∨ character = value.digitChar.toUpper)

def Places (base places value : Nat) (text : List Char) : Prop :=
  ∃ digits, List.Forall₂ (Digit base) digits text ∧ digits.length = places ∧
    natOfDigits base digits = value

inductive Digits (base : Nat) : List Nat → List Char → Prop
  | last {value : Nat} {character : Char} (digit : Digit base value character) :
      Digits base [value] [character]
  | more {value : Nat} {values : List Nat} {character : Char} {rest : List Char}
      (digit : Digit base value character) (later : Digits base values rest) :
      Digits base (value :: values) (character :: rest)
  | apart {value : Nat} {values : List Nat} {character : Char} {rest : List Char}
      (digit : Digit base value character) (later : Digits base values rest) :
      Digits base (value :: values) (character :: '_' :: rest)

/-! Strings. -/

def shortEscapes : List (Char × Char) :=
  [('b', '\x08'), ('t', '\t'), ('n', '\n'), ('f', '\x0C'), ('r', '\r'), ('"', '"'), ('\\', '\\')]

inductive Spells (character : Char) : List Char → Prop
  | plain (printed : Printed character) (noQuote : character ≠ '"')
      (noEscape : character ≠ '\\') : Spells character [character]
  | short {letter : Char} (listed : (letter, character) ∈ shortEscapes) :
      Spells character ['\\', letter]
  | four {digits : List Char} (code : Places 16 4 character.toNat digits) :
      Spells character ('\\' :: 'u' :: digits)
  | eight {digits : List Char} (code : Places 16 8 character.toNat digits) :
      Spells character ('\\' :: 'U' :: digits)

def BasicString (text : String) (written : List Char) : Prop :=
  ∃ spelled, List.Forall₂ Spells text.toList spelled ∧ written = '"' :: spelled.flatten ++ ['"']

def LiteralString (text : String) (written : List Char) : Prop :=
  (∀ character ∈ text.toList, Printed character ∧ character ≠ '\'') ∧
    written = '\'' :: text.toList ++ ['\'']

inductive LiteralPiece : List Char → Prop
  | plain {character : Char} (printed : Printed character) (noQuote : character ≠ '\'') :
      LiteralPiece [character]
  | lineBreak {text : List Char} (ends : LineBreak text) : LiteralPiece text

inductive BasicPiece : List Char → Prop
  | spelled {character : Char} {text : List Char} (spells : Spells character text) :
      BasicPiece text
  | lineBreak {text : List Char} (ends : LineBreak text) : BasicPiece text
  | continued {blanks lineBreak : List Char} (spaced : Spaces blanks) (ends : LineBreak lineBreak) :
      BasicPiece ('\\' :: blanks ++ lineBreak)

/-- A string of several lines behind its opening, to its closing quotes and with them; the number
counts the quotes right before. One or two quotes may belong to the string at any place. -/
inductive Multiline (quote : Char) (Piece : List Char → Prop) : Nat → List Char → Prop
  | close {quotes : Nat} (few : quotes ≤ 2) : Multiline quote Piece quotes [quote, quote, quote]
  | quote {quotes : Nat} {rest : List Char} (few : quotes < 2)
      (later : Multiline quote Piece (quotes + 1) rest) :
      Multiline quote Piece quotes (quote :: rest)
  | piece {quotes : Nat} {text rest : List Char} (part : Piece text)
      (later : Multiline quote Piece 0 rest) : Multiline quote Piece quotes (text ++ rest)

/-! Numbers. -/

inductive Sign : Bool → List Char → Prop
  | none : Sign false []
  | plus : Sign false ['+']
  | minus : Sign true ['-']

def signed (negative : Bool) (magnitude : Nat) : Int := if negative then -magnitude else magnitude

inductive Whole : List Nat → List Char → Prop
  | zero : Whole [0] ['0']
  | digits {digits : List Nat} {text : List Char} (written : Digits 10 digits text)
      (leading : digits.head? ≠ some 0) : Whole digits text

inductive IntegerText : Int → List Char → Prop
  | decimal {negative : Bool} {digits : List Nat} {sign text : List Char}
      (signs : Sign negative sign) (whole : Whole digits text) :
      IntegerText (signed negative (natOfDigits 10 digits)) (sign ++ text)
  | based {base : Nat} {mark : Char} {digits : List Nat} {text : List Char}
      (prefixed : (mark, base) ∈ [('x', 16), ('o', 8), ('b', 2)])
      (written : Digits base digits text) :
      IntegerText (natOfDigits base digits) ('0' :: mark :: text)

def WrittenInteger (value : Int) (text : List Char) : Prop :=
  IntegerText value text ∧ -0x8000000000000000 ≤ value ∧ value < 0x8000000000000000

inductive Fraction : List Nat → List Char → Prop
  | none : Fraction [] []
  | some {digits : List Nat} {text : List Char} (written : Digits 10 digits text) :
      Fraction digits ('.' :: text)

inductive Exponent : Int → List Char → Prop
  | none : Exponent 0 []
  | some {mark : Char} {negative : Bool} {digits : List Nat} {sign text : List Char}
      (marked : mark ∈ ['e', 'E']) (signs : Sign negative sign) (written : Digits 10 digits text) :
      Exponent (signed negative (natOfDigits 10 digits)) (mark :: sign ++ text)

def Small (coefficient : Nat) (power : Int) : Prop :=
  coefficient * 10 ^ power.toNat < Binary64.overflow * 10 ^ (-power).toNat

inductive WrittenFloat : List Char → Prop
  | decimal {negative : Bool} {digits places : List Nat} {power : Int}
      {sign text fraction exponent : List Char} (signs : Sign negative sign)
      (whole : Whole digits text) (fractional : Fraction places fraction)
      (scaled : Exponent power exponent) (marked : fraction ++ exponent ≠ [])
      (small : negative = true ∨
        Small (natOfDigits 10 (digits ++ places)) (power - places.length)) :
      WrittenFloat (sign ++ text ++ fraction ++ exponent)
  | named {negative : Bool} {sign name : List Char} (signs : Sign negative sign)
      (named : name = "inf".toList ∨ name = "nan".toList) : WrittenFloat (sign ++ name)

/-! Dates and times. -/

def Falls (year month day : Nat) : Prop :=
  1 ≤ day ∧ (day ≤ 28 ∨
    day = 29 ∧ (month = 2 → 4 ∣ year ∧ (100 ∣ year → 400 ∣ year)) ∨
    day = 30 ∧ month ≠ 2 ∨ day = 31 ∧ month ∈ [1, 3, 5, 7, 8, 10, 12])

inductive WrittenDate : List Char → Prop
  | mk {year month day : Nat} {first second third : List Char} (years : Places 10 4 year first)
      (months : Places 10 2 month second) (days : Places 10 2 day third)
      (inYear : 1 ≤ month ∧ month ≤ 12) (falls : Falls year month day) :
      WrittenDate (first ++ '-' :: second ++ '-' :: third)

inductive SecondFraction : List Char → Prop
  | none : SecondFraction []
  | some {digits : List Nat} {text : List Char} (written : List.Forall₂ (Digit 10) digits text)
      (nonempty : text ≠ []) : SecondFraction ('.' :: text)

inductive WrittenTime : List Char → Prop
  | mk {hour minute second : Nat} {first middle last fraction : List Char}
      (hours : Places 10 2 hour first) (minutes : Places 10 2 minute middle)
      (seconds : Places 10 2 second last) (inDay : hour ≤ 23) (inHour : minute ≤ 59)
      (inMinute : second ≤ 60) (fractional : SecondFraction fraction) :
      WrittenTime (first ++ ':' :: middle ++ ':' :: last ++ fraction)

inductive WrittenOffset : List Char → Prop
  | none : WrittenOffset []
  | zero {mark : Char} (marked : mark ∈ ['Z', 'z']) : WrittenOffset [mark]
  | apart {hour minute : Nat} {mark : Char} {first last : List Char} (marked : mark ∈ ['+', '-'])
      (hours : Places 10 2 hour first) (minutes : Places 10 2 minute last) (inDay : hour ≤ 23)
      (inHour : minute ≤ 59) : WrittenOffset (mark :: first ++ ':' :: last)

inductive WrittenDatetime : List Char → Prop
  | date {text : List Char} (date : WrittenDate text) : WrittenDatetime text
  | time {text : List Char} (time : WrittenTime text) : WrittenDatetime text
  | both {mark : Char} {date time offset : List Char} (day : WrittenDate date)
      (marked : mark ∈ ['T', 't', ' ']) (hours : WrittenTime time) (zone : WrittenOffset offset) :
      WrittenDatetime (date ++ mark :: time ++ offset)

/-! Values and names. -/

inductive WrittenBoolean : Bool → List Char → Prop
  | true : WrittenBoolean true "true".toList
  | false : WrittenBoolean false "false".toList

inductive WrittenScalar : List Char → Prop
  | basic {text : String} {written : List Char} (content : BasicString text written) :
      WrittenScalar written
  | literal {text : String} {written : List Char} (content : LiteralString text written) :
      WrittenScalar written
  | basicLines {text : List Char} (content : Multiline '"' BasicPiece 0 text) :
      WrittenScalar ('"' :: '"' :: '"' :: text)
  | literalLines {text : List Char} (content : Multiline '\'' LiteralPiece 0 text) :
      WrittenScalar ('\'' :: '\'' :: '\'' :: text)
  | integer {value : Int} {text : List Char} (written : WrittenInteger value text) :
      WrittenScalar text
  | float {text : List Char} (written : WrittenFloat text) : WrittenScalar text
  | boolean {value : Bool} {text : List Char} (written : WrittenBoolean value text) :
      WrittenScalar text
  | datetime {text : List Char} (written : WrittenDatetime text) : WrittenScalar text

inductive WrittenIntegers : List Int → List Char → Prop
  | none {filler : List Char} (filled : Filler filler) : WrittenIntegers [] (filler ++ [']'])
  | last {value : Int} {before text after : List Char} (filled : Filler before)
      (written : WrittenInteger value text) (filledAfter : Filler after) :
      WrittenIntegers [value] (before ++ text ++ after ++ [']'])
  | more {value : Int} {values : List Int} {before text after rest : List Char}
      (filled : Filler before) (written : WrittenInteger value text) (filledAfter : Filler after)
      (later : WrittenIntegers values rest) :
      WrittenIntegers (value :: values) (before ++ text ++ after ++ ',' :: rest)

inductive WrittenName (name : String) : List Char → Prop
  | bare (nonempty : name.toList ≠ [])
      (plain : ∀ character ∈ name.toList,
        character.isAlphanum = true ∨ character = '_' ∨ character = '-') :
      WrittenName name name.toList
  | basic {written : List Char} (content : BasicString name written) : WrittenName name written
  | literal {written : List Char} (content : LiteralString name written) : WrittenName name written

/-! Lines and tables. -/

section Tables

variable {α : Type}

inductive Item (α : Type)
  | pair (key : String) (content : α)
  | header (name : String) (repeated : Bool)

def brackets (repeated : Bool) (bracket : Char) : List Char :=
  if repeated then [bracket, bracket] else [bracket]

inductive WrittenItem (Held : α → List Char → Prop) : Item α → List Char → Prop
  | pair {key : String} {content : α} {name before after written : List Char}
      (named : WrittenName key name) (spaced : Spaces before) (spacedAfter : Spaces after)
      (holds : Held content written) :
      WrittenItem Held (.pair key content) (name ++ before ++ '=' :: after ++ written)
  | header {name : String} {repeated : Bool} {before written after : List Char}
      (spaced : Spaces before) (named : WrittenName name written) (spacedAfter : Spaces after) :
      WrittenItem Held (.header name repeated)
        (brackets repeated '[' ++ before ++ written ++ after ++ brackets repeated ']')

inductive WrittenLines (Held : α → List Char → Prop) : List (Item α) → List Char → Prop
  | none : WrittenLines Held [] []
  | blank {items : List (Item α)} {before comment lineBreak rest : List Char}
      (spaced : Spaces before) (commented : Comment comment)
      (ends : LineBreak lineBreak ∨ lineBreak = [] ∧ rest = [])
      (later : WrittenLines Held items rest) :
      WrittenLines Held items (before ++ comment ++ lineBreak ++ rest)
  | item {item : Item α} {items : List (Item α)}
      {before text after comment lineBreak rest : List Char} (spaced : Spaces before)
      (written : WrittenItem Held item text) (spacedAfter : Spaces after)
      (commented : Comment comment) (ends : LineBreak lineBreak ∨ lineBreak = [] ∧ rest = [])
      (later : WrittenLines Held items rest) :
      WrittenLines Held (item :: items)
        (before ++ text ++ after ++ comment ++ lineBreak ++ rest)

structure HeadedTable (α : Type) where
  name : String
  repeated : Bool
  entries : List (String × α)

def HeadedTable.items (table : HeadedTable α) : List (Item α) :=
  .header table.name table.repeated :: table.entries.map fun entry => .pair entry.1 entry.2

def WrittenTables (Held : α → List Char → Prop) (tables : List (HeadedTable α)) (text : List Char) :
    Prop :=
  ∃ mark lines, (mark = [] ∨ mark = ['\uFEFF']) ∧
    WrittenLines Held (tables.flatMap HeadedTable.items) lines ∧ text = mark ++ lines

end Tables

end Throughput.Toml
