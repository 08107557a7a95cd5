import Throughput.Json.Fault

/-! JSON number literals and the numbers they stand for.

The digits are gathered in a 64-bit significand for as long as they fit; further whole digits
only raise the decimal exponent and further fraction digits are dropped. A decimal exponent
within the table of powers is applied with one multiplication or division. -/

namespace Throughput.Json

def digit? (byte : UInt8) : Option Nat :=
  if 48 ≤ byte.toNat ∧ byte.toNat ≤ 57 then some (byte.toNat - 48) else none

def isDigit (byte : UInt8) : Bool := (digit? byte).isSome

def leadingDigits (input : List UInt8) : List Nat := (input.takeWhile isDigit).filterMap digit?

def afterDigits (input : List UInt8) : List UInt8 := input.dropWhile isDigit

def natOfDigits (digits : List Nat) : Nat := digits.foldl (fun value digit => value * 10 + digit) 0

structure Exponent where
  negative : Bool
  digits : List Nat
deriving DecidableEq

structure Literal where
  negative : Bool
  whole : List Nat
  fraction : Option (List Nat)
  exponent : Option Exponent
deriving DecidableEq

namespace Literal

def readWhole : Reader (List Nat)
  | [] => fail .endInValue .last []
  | byte :: rest =>
    match digit? byte with
    | none => fail .invalidNumber .last rest
    | some 0 => if rest.head?.any isDigit then fail .invalidNumber .next rest else .ok ([0], rest)
    | some digit => .ok (digit :: leadingDigits rest, afterDigits rest)

def readFraction : Reader (Option (List Nat))
  | 0x2E :: rest =>
    if rest.isEmpty then fail .endInValue .next rest
    else if (leadingDigits rest).isEmpty then fail .invalidNumber .next rest
    else .ok (some (leadingDigits rest), afterDigits rest)
  | rest => .ok (none, rest)

def exponentSign : List UInt8 → Bool × List UInt8
  | 0x2B :: rest => (false, rest)
  | 0x2D :: rest => (true, rest)
  | rest => (false, rest)

def readExponentDigits (negative : Bool) : Reader (Option Exponent)
  | [] => fail .endInValue .last []
  | byte :: rest =>
    match digit? byte with
    | none => fail .invalidNumber .last rest
    | some digit => .ok (some ⟨negative, digit :: leadingDigits rest⟩, afterDigits rest)

def readExponent : Reader (Option Exponent)
  | byte :: rest =>
    if byte = 0x45 ∨ byte = 0x65 then
      let (negative, digits) := exponentSign rest
      readExponentDigits negative digits
    else .ok (none, byte :: rest)
  | [] => .ok (none, [])

def read (negative : Bool) : Reader Literal := fun input => do
  let (whole, input) ← readWhole input
  let (fraction, input) ← readFraction input
  let (exponent, input) ← readExponent input
  return (⟨negative, whole, fraction, exponent⟩, input)

/-- Adds digits to a significand for as long as it stays below 2^64; gives it with the number of
digits left over. -/
def gather : Nat → List Nat → Nat × Nat
  | significand, [] => (significand, 0)
  | significand, digit :: rest =>
    if significand * 10 + digit < UInt64.size then gather (significand * 10 + digit) rest
    else (significand, rest.length + 1)

def scaled (literal : Literal) : Nat × Int :=
  let (whole, raised) := gather 0 literal.whole
  let fraction := literal.fraction.getD []
  let (significand, dropped) := gather whole fraction
  (significand, (raised : Int) - ((fraction.length - dropped : Nat) : Int))

/-- Greatest exponent that can be written, 2^31 - 1. -/
def exponentLimit : Nat := 2147483647

def excess? (digits : List Nat) : Option Nat :=
  ((List.range (digits.length + 1)).find? fun count =>
    exponentLimit < natOfDigits (digits.take count)).map (digits.length - ·)

def powerOfTen (exponent : Nat) : Binary64 := .ofNat (Nat.pow 10 exponent)

def powerLimit : Nat := 308

def shrink (value : Binary64) (exponent : Nat) : Binary64 :=
  if exponent ≤ powerLimit then value / powerOfTen exponent
  else if value.eq .zero then value
  else shrink (value / powerOfTen powerLimit) (exponent - powerLimit)
termination_by exponent
decreasing_by
  unfold powerLimit at *
  omega

def grow? (value : Binary64) (exponent : Nat) : Option Binary64 :=
  if exponent ≤ powerLimit then
    let product := value * powerOfTen exponent
    if product.isInfinite then none else some product
  else if value.eq .zero then some value
  else none

def scale? (value : Binary64) : Int → Option Binary64
  | .ofNat exponent => grow? value exponent
  | .negSucc exponent => some (shrink value (exponent + 1))

def signed (negative : Bool) (value : Binary64) : Binary64 := if negative then -value else value

def float? (literal : Literal) : Option Binary64 :=
  let (significand, raised) := literal.scaled
  match literal.exponent with
  | none => (scale? (.ofNat significand) raised).map (signed literal.negative)
  | some exponent =>
    let written := natOfDigits exponent.digits
    if exponentLimit < written then
      if significand = 0 ∨ exponent.negative then some (signed literal.negative .zero) else none
    else
      let shift : Int := if exponent.negative then -(written : Int) else written
      (scale? (.ofNat significand) (raised + shift)).map (signed literal.negative)

/-- A whole number keeps its exact value when it fits 64 bits; negative zero does not. -/
def integer? (literal : Literal) : Option Int :=
  let magnitude := natOfDigits literal.whole
  if literal.fraction.isSome ∨ literal.exponent.isSome then none
  else if literal.negative then
    if 0 < magnitude ∧ magnitude ≤ 0x8000000000000000 then some (-(magnitude : Int)) else none
  else if magnitude < UInt64.size then some (magnitude : Int)
  else none

def value? (literal : Literal) : Option Value :=
  match literal.integer? with
  | some value => some (.integer value)
  | none => literal.float?.map .float

/-- An exponent is found too large at the digit that makes it so; any other excess shows only
once the literal has ended. -/
def rangeFailure (literal : Literal) (rest : List UInt8) : Failure :=
  match literal.exponent.bind fun exponent => excess? exponent.digits with
  | some unread => ⟨.numberOutOfRange, rest.length + unread, .last⟩
  | none => ⟨.numberOutOfRange, rest.length, .beforeNext⟩

end Literal

def readNumber (negative : Bool) : Reader Value := fun input => do
  let (literal, rest) ← Literal.read negative input
  match literal.value? with
  | some value => return (value, rest)
  | none => .error (literal.rangeFailure rest)

end Throughput.Json
