/-! Text read from bytes that need not be well-formed UTF-8.

Every byte belongs to exactly one piece: a character, or the longest start of a character that
the following byte breaks off. -/

namespace Throughput.Utf8

inductive Piece
  | character (value : Char)
  | stray (bytes : List UInt8)
deriving DecidableEq

structure Pending where
  bytes : List UInt8
  /-- Continuation bytes still to come. -/
  owed : Nat
  /-- Bounds of the next continuation byte. -/
  low : Nat
  high : Nat
  code : Nat

inductive Opening
  | complete (value : Char)
  | pending (rest : Pending)
  | stray

def opening (byte : UInt8) : Opening :=
  let value := byte.toNat
  if value < 0x80 then .complete (Char.ofNat value)
  else if value < 0xC2 then .stray
  else if value < 0xE0 then .pending ⟨[byte], 1, 0x80, 0xBF, value - 0xC0⟩
  else if value = 0xE0 then .pending ⟨[byte], 2, 0xA0, 0xBF, 0⟩
  else if value = 0xED then .pending ⟨[byte], 2, 0x80, 0x9F, 0xD⟩
  else if value < 0xF0 then .pending ⟨[byte], 2, 0x80, 0xBF, value - 0xE0⟩
  else if value = 0xF0 then .pending ⟨[byte], 3, 0x90, 0xBF, 0⟩
  else if value < 0xF4 then .pending ⟨[byte], 3, 0x80, 0xBF, value - 0xF0⟩
  else if value = 0xF4 then .pending ⟨[byte], 3, 0x80, 0x8F, 4⟩
  else .stray

def Pending.extend? (pending : Pending) (byte : UInt8) : Option Opening :=
  let value := byte.toNat
  if pending.low ≤ value ∧ value ≤ pending.high then
    let code := pending.code * 64 + (value - 0x80)
    if pending.owed = 1 then some (.complete (Char.ofNat code))
    else some (.pending ⟨pending.bytes ++ [byte], pending.owed - 1, 0x80, 0xBF, code⟩)
  else none

def Opening.settle (byte : UInt8) : Opening → List Piece × Option Pending
  | .complete value => ([.character value], none)
  | .pending rest => ([], some rest)
  | .stray => ([.stray [byte]], none)

def step : Option Pending → UInt8 → List Piece × Option Pending
  | none, byte => (opening byte).settle byte
  | some pending, byte =>
    match pending.extend? byte with
    | some extended => extended.settle byte
    | none =>
      let (pieces, rest) := (opening byte).settle byte
      (.stray pending.bytes :: pieces, rest)

def piecesFrom : Option Pending → List UInt8 → List Piece
  | none, [] => []
  | some pending, [] => [.stray pending.bytes]
  | state, byte :: bytes =>
    let (pieces, next) := step state byte
    pieces ++ piecesFrom next bytes

def pieces (bytes : List UInt8) : List Piece := piecesFrom none bytes

def wellFormedLength : List Piece → Nat
  | .character value :: rest => value.utf8Size + wellFormedLength rest
  | _ => 0

def Piece.shown : Piece → Char
  | .character value => value
  | .stray _ => '\uFFFD'

def lossy (bytes : List UInt8) : String := String.ofList ((pieces bytes).map Piece.shown)

def text? (bytes : List UInt8) : Option String := String.fromUTF8? ⟨bytes.toArray⟩

def bytes (text : String) : List UInt8 := text.toUTF8.data.toList

/-- The text of bytes that are known to be well-formed. -/
def trusted (bytes : List UInt8) : String := (text? bytes).getD ""

end Throughput.Utf8
