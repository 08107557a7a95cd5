import Throughput.Json.Number
import Throughput.Json.StringToken

/-! Reading JSON: any value, and a log, which is an array of objects.

Containers may be nested to a fixed depth; the recursion follows that depth. The loop over the
parts of one container follows a budget of bytes, one for each part: the container's own text
together with one byte more, so that it never runs out. -/

namespace Throughput.Json

def isBlankByte (byte : UInt8) : Bool := byte = 0x20 || byte = 0x0A || byte = 0x0D || byte = 0x09

def skipBlanks (input : List UInt8) : List UInt8 := input.dropWhile isBlankByte

def readName (value : Value) : List UInt8 → Reader Value
  | [], rest => .ok (value, rest)
  | _ :: _, [] => fail .endInValue .last []
  | expected :: name, byte :: rest =>
    if byte = expected then readName value name rest else fail .expectedName .last rest

def readScalar (origin : Origin) : Reader Value
  | [] => fail .endInValue .next []
  | byte :: rest =>
    match byte with
    | 0x6E => readName .null (Utf8.bytes "ull") rest
    | 0x74 => readName (.boolean true) (Utf8.bytes "rue") rest
    | 0x66 => readName (.boolean false) (Utf8.bytes "alse") rest
    | 0x2D => readNumber true rest
    | 0x22 => do
      let (text, rest) ← readString origin rest
      return (.string text, rest)
    | _ => if isDigit byte then readNumber false (byte :: rest)
      else fail .expectedValue .next (byte :: rest)

def readMoreItems {α : Type} (item : Reader α) : List UInt8 → Reader (List α)
  | [], input => fail .endInList .next input
  | _ :: budget, input =>
    match skipBlanks input with
    | [] => fail .endInList .next []
    | 0x5D :: rest => .ok ([], rest)
    | 0x2C :: rest =>
      match skipBlanks rest with
      | [] => fail .endInValue .next []
      | 0x5D :: after => fail .trailingComma .next (0x5D :: after)
      | start => do
        let (value, rest) ← item start
        let (values, rest) ← readMoreItems item budget rest
        return (value :: values, rest)
    | rest => fail .expectedListCommaOrEnd .next rest

def readItems {α : Type} (item : Reader α) : Reader (List α) := fun input =>
  match skipBlanks input with
  | [] => fail .endInList .next []
  | 0x5D :: rest => .ok ([], rest)
  | start => do
    let (value, rest) ← item start
    let (values, rest) ← readMoreItems item (0 :: rest) rest
    return (value :: values, rest)

def readMember (origin : Origin) (value : Reader Value) : Reader (String × Value) := fun input => do
  let (key, rest) ← readString origin input
  match skipBlanks rest with
  | [] => fail .endInObject .next []
  | 0x3A :: rest =>
    let (held, rest) ← value (skipBlanks rest)
    return ((key, held), rest)
  | rest => fail .expectedColon .next rest

def readMoreMembers (origin : Origin) (value : Reader Value) :
    List UInt8 → Reader (List (String × Value))
  | [], input => fail .endInObject .next input
  | _ :: budget, input =>
    match skipBlanks input with
    | [] => fail .endInObject .next []
    | 0x7D :: rest => .ok ([], rest)
    | 0x2C :: rest =>
      match skipBlanks rest with
      | [] => fail .endInValue .next []
      | 0x22 :: start => do
        let (member, rest) ← readMember origin value start
        let (members, rest) ← readMoreMembers origin value budget rest
        return (member :: members, rest)
      | 0x7D :: after => fail .trailingComma .next (0x7D :: after)
      | after => fail .keyNotString .next after
    | rest => fail .expectedObjectCommaOrEnd .next rest

def readMembers (origin : Origin) (value : Reader Value) :
    Reader (List (String × Value)) := fun input =>
  match skipBlanks input with
  | [] => fail .endInObject .next []
  | 0x7D :: rest => .ok ([], rest)
  | 0x22 :: start => do
    let (member, rest) ← readMember origin value start
    let (members, rest) ← readMoreMembers origin value (0 :: rest) rest
    return (member :: members, rest)
  | rest => fail .keyNotString .next rest

def readValue (origin : Origin) : Nat → Reader Value
  | 0, input =>
    match input with
    | 0x5B :: _ | 0x7B :: _ => fail .tooDeep .next input
    | _ => readScalar origin input
  | depth + 1, input =>
    match input with
    | 0x5B :: rest => do
      let (items, rest) ← readItems (readValue origin depth) rest
      return (.array items, rest)
    | 0x7B :: rest => do
      let (members, rest) ← readMembers origin (readValue origin depth) rest
      return (.object (Object.ofMembers members), rest)
    | _ => readScalar origin input

/-- Rejects a value where a container is needed. A number shows only by the byte after it that
it has ended, and a container is rejected by its first byte. -/
def refuse {α : Type} (origin : Origin) (expected : Expected) : Reader α
  | 0x5B :: rest => fail (.wrongKind .array expected) .beforeNext (0x5B :: rest)
  | 0x7B :: rest => fail (.wrongKind .object expected) .beforeNext (0x7B :: rest)
  | input => do
    let (value, rest) ← readScalar origin input
    let blame := match value with
      | .integer _ | .float _ => Blame.beforeNext
      | _ => Blame.last
    fail (.wrongKind (Kind.ofValue value) expected) blame rest

def depthLimit : Nat := 127

def readRecord (origin : Origin) : Reader Object
  | 0x7B :: rest => do
    let (members, rest) ← readMembers origin (readValue origin (depthLimit - 2)) rest
    return (Object.ofMembers members, rest)
  | input => refuse origin .map input

def readRecords (origin : Origin) : Reader (List Object) := fun input =>
  match skipBlanks input with
  | 0x5B :: rest => readItems (readRecord origin) rest
  | start => refuse origin .sequence start

/-- Reads a whole log; only blanks may follow its closing bracket. -/
def readLog (origin : Origin) (input : List UInt8) : Except Failure (List Object) := do
  let (records, rest) ← readRecords origin input
  match skipBlanks rest with
  | [] => return records
  | after => .error ⟨.trailingCharacters, after.length, .next⟩

def records (origin : Origin) (input : List UInt8) : Except SyntaxError (List Object) :=
  (readLog origin input).mapError (Failure.located origin input)

end Throughput.Json
