import Throughput.Json.Printer
import Throughput.Text.Quoted

/-! What can be wrong with a JSON text, and where. -/

namespace Throughput.Json

inductive Kind
  | null
  | boolean (value : Bool)
  | integer (value : Int)
  | float (value : Binary64)
  | string (text : String)
  | array
  | object

namespace Kind

def ofValue : Value → Kind
  | .null => .null
  | .boolean value => .boolean value
  | .integer value => .integer value
  | .float value => .float value
  | .string text => .string text
  | .array _ => .array
  | .object _ => .object

def text : Kind → String
  | .null => "null"
  | .boolean value => "boolean `" ++ (if value then "true" else "false") ++ "`"
  | .integer value => s!"integer `{value}`"
  | .float value => "floating point `" ++ value.text .json ++ "`"
  | .string text => "string " ++ Quoted.text text
  | .array => "sequence"
  | .object => "map"

end Kind

inductive Expected
  | sequence
  | map
deriving DecidableEq

def Expected.text : Expected → String
  | .sequence => "a sequence"
  | .map => "a map"

inductive Fault
  | endInList
  | endInObject
  | endInString
  | endInValue
  | expectedColon
  | expectedListCommaOrEnd
  | expectedObjectCommaOrEnd
  | expectedName
  | expectedValue
  | invalidEscape
  | invalidNumber
  | numberOutOfRange
  | invalidCodePoint
  | controlCharacter
  | keyNotString
  | loneSurrogate
  | trailingComma
  | trailingCharacters
  | endOfEscape
  | tooDeep
  | wrongKind (found : Kind) (expected : Expected)

def Fault.message : Fault → String
  | .endInList => "EOF while parsing a list"
  | .endInObject => "EOF while parsing an object"
  | .endInString => "EOF while parsing a string"
  | .endInValue => "EOF while parsing a value"
  | .expectedColon => "expected `:`"
  | .expectedListCommaOrEnd => "expected `,` or `]`"
  | .expectedObjectCommaOrEnd => "expected `,` or `\x7d`"
  | .expectedName => "expected ident"
  | .expectedValue => "expected value"
  | .invalidEscape => "invalid escape"
  | .invalidNumber => "invalid number"
  | .numberOutOfRange => "number out of range"
  | .invalidCodePoint => "invalid unicode code point"
  | .controlCharacter => "control character (\\u0000-\\u001F) found while parsing a string"
  | .keyNotString => "key must be a string"
  | .loneSurrogate => "lone leading surrogate in hex escape"
  | .trailingComma => "trailing comma"
  | .trailingCharacters => "trailing characters"
  | .endOfEscape => "unexpected end of hex escape"
  | .tooDeep => "recursion limit exceeded"
  | .wrongKind found expected => "invalid type: " ++ found.text ++ ", expected " ++ expected.text

inductive Origin
  | text
  | stream
deriving DecidableEq

inductive Blame
  /-- The last byte that was consumed. -/
  | last
  /-- The byte after it. -/
  | next
  /-- The last byte, noticed only by looking at the next one; a stream counts what it looks at. -/
  | beforeNext
deriving DecidableEq

/-- A fault together with the number of bytes that were not consumed. -/
structure Failure where
  fault : Fault
  remaining : Nat
  blame : Blame

structure SyntaxError where
  fault : Fault
  /-- Counted from one. -/
  line : Nat
  /-- Bytes since the last line feed. -/
  column : Nat

namespace SyntaxError

def message (error : SyntaxError) : String :=
  error.fault.message ++ s!" at line {error.line} column {error.column}"

def lineFeed : UInt8 := 10

end SyntaxError

namespace Failure

/-- Number of bytes up to and including the one that is blamed. -/
def reach (origin : Origin) (length : Nat) (failure : Failure) : Nat :=
  let consumed := length - failure.remaining
  match failure.blame, origin with
  | .last, _ | .beforeNext, .text => consumed
  | .next, _ | .beforeNext, .stream => min (consumed + 1) length

def located (origin : Origin) (input : List UInt8) (failure : Failure) : SyntaxError :=
  let before := input.take (failure.reach origin input.length)
  { fault := failure.fault
    line := before.count SyntaxError.lineFeed + 1
    column := (before.reverse.takeWhile (· != SyntaxError.lineFeed)).length }

end Failure

/-- A reader takes a value from the front of its input, or fails. -/
abbrev Reader (α : Type) := List UInt8 → Except Failure (α × List UInt8)

def fail {α : Type} (fault : Fault) (blame : Blame) (rest : List UInt8) :
    Except Failure (α × List UInt8) :=
  .error ⟨fault, rest.length, blame⟩

end Throughput.Json
