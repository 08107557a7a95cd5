import Throughput.Json.Fault
import Throughput.Text.Utf8

/-! JSON string tokens: a state machine over the bytes after the opening quote. -/

namespace Throughput.Json

inductive EscapeState
  | outside
  | backslash
  /-- The four digits of a code unit, so far, after a high surrogate if there was one. -/
  | unit (high : Option Nat) (digits : List UInt8)
  /-- A high surrogate needs a backslash next. -/
  | highSurrogate (code : Nat)
  | highBackslash (code : Nat)
deriving DecidableEq

inductive StringStep
  | close
  | append (bytes : List UInt8) (state : EscapeState)
  | refuse (fault : Fault)

namespace StringToken

def simpleEscape? (byte : UInt8) : Option UInt8 :=
  match byte with
  | 0x22 | 0x5C | 0x2F => some byte
  | 0x62 => some 8
  | 0x66 => some 12
  | 0x6E => some 10
  | 0x72 => some 13
  | 0x74 => some 9
  | _ => none

def hexDigit? (byte : UInt8) : Option Nat :=
  let value := byte.toNat
  if 48 ≤ value ∧ value ≤ 57 then some (value - 48)
  else if 65 ≤ value ∧ value ≤ 70 then some (value - 55)
  else if 97 ≤ value ∧ value ≤ 102 then some (value - 87)
  else none

def codeUnit? (digits : List UInt8) : Option Nat :=
  digits.foldlM (fun value byte => (hexDigit? byte).map (value * 16 + ·)) 0

def encoded (code : Nat) : List UInt8 := String.utf8EncodeChar (Char.ofNat code)

def finishUnit (high : Option Nat) (code : Nat) : StringStep :=
  match high with
  | none =>
    if 0xDC00 ≤ code ∧ code ≤ 0xDFFF then .refuse .loneSurrogate
    else if 0xD800 ≤ code ∧ code ≤ 0xDBFF then .append [] (.highSurrogate code)
    else .append (encoded code) .outside
  | some high =>
    if 0xDC00 ≤ code ∧ code ≤ 0xDFFF then
      .append (encoded (0x10000 + (high - 0xD800) * 0x400 + (code - 0xDC00))) .outside
    else .refuse .loneSurrogate

def step (state : EscapeState) (byte : UInt8) : StringStep :=
  match state with
  | .outside =>
    if byte = 0x22 then .close
    else if byte = 0x5C then .append [] .backslash
    else if byte < 0x20 then .refuse .controlCharacter
    else .append [byte] .outside
  | .backslash =>
    if byte = 0x75 then .append [] (.unit none [])
    else
      match simpleEscape? byte with
      | some value => .append [value] .outside
      | none => .refuse .invalidEscape
  | .unit high digits =>
    let digits := digits ++ [byte]
    if digits.length < 4 then .append [] (.unit high digits)
    else
      match codeUnit? digits with
      | some code => finishUnit high code
      | none => .refuse .invalidEscape
  | .highSurrogate code =>
    if byte = 0x5C then .append [] (.highBackslash code) else .refuse .endOfEscape
  | .highBackslash code =>
    if byte = 0x75 then .append [] (.unit (some code) []) else .refuse .endOfEscape

/-- Reads up to the closing quote; `content` is what the token holds so far, last byte first. -/
def readBytes (state : EscapeState) (content : List UInt8) : Reader (List UInt8)
  | [] => fail .endInString .last []
  | byte :: rest =>
    match step state byte with
    | .close => .ok (content.reverse, rest)
    | .append bytes next => readBytes next (bytes.reverse ++ content) rest
    | .refuse fault => fail fault .last rest

end StringToken

/-- Blames a byte of a closed token whose content is no text: the one as far before the closing
quote as the first ill-formed byte is before the end of the content. -/
def codePointFailure (content rest : List UInt8) : Failure :=
  ⟨.invalidCodePoint,
    rest.length + (content.length - Utf8.wellFormedLength (Utf8.pieces content)), .last⟩

/-- A text in memory is well-formed from end to end, so that its strings are taken as they are; in
a stream every string is checked by itself. -/
def Origin.content? : Origin → List UInt8 → Option String
  | .text, content => some (Utf8.trusted content)
  | .stream, content => Utf8.text? content

def readString (origin : Origin) : Reader String := fun input => do
  let (content, rest) ← StringToken.readBytes .outside [] input
  match origin.content? content with
  | some text => return (text, rest)
  | none => .error (codePointFailure content rest)

end Throughput.Json
