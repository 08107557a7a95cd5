import Throughput.Toml.Characters
import Throughput.Toml.Strings
import Throughput.Toml.Value

/-! TOML numbers. Underscores may stand between digits. -/

namespace Throughput.Toml

def digitRun (digit? : Char → Option Nat) : List Char → List Nat × List Char
  | [] => ([], [])
  | '_' :: next :: rest =>
    match digit? next with
    | some value =>
      let (digits, after) := digitRun digit? rest
      (value :: digits, after)
    | none => ([], '_' :: next :: rest)
  | first :: rest =>
    match digit? first with
    | some value =>
      let (digits, after) := digitRun digit? rest
      (value :: digits, after)
    | none => ([], first :: rest)

def readDigits (digit? : Char → Option Nat) : Reader (List Nat)
  | [] => none
  | first :: rest => do
    let value ← digit? first
    let (digits, after) := digitRun digit? rest
    return (value :: digits, after)

def decimalDigit? (character : Char) : Option Nat :=
  if '0' ≤ character ∧ character ≤ '9' then some (character.toNat - '0'.toNat) else none

def digitBelow? (base : Nat) (character : Char) : Option Nat :=
  (hexDigit? character).filter (· < base)

def natOfDigits (base : Nat) (digits : List Nat) : Nat :=
  digits.foldl (fun value digit => value * base + digit) 0

def readSign : List Char → Bool × List Char
  | '+' :: rest => (false, rest)
  | '-' :: rest => (true, rest)
  | rest => (false, rest)

def readWhole : Reader (List Nat)
  | '0' :: rest => some ([0], rest)
  | rest => readDigits decimalDigit? rest

def inRange? (value : Int) : Option Value :=
  if -0x8000000000000000 ≤ value ∧ value < 0x8000000000000000 then some (.integer value) else none

def readInteger : Reader Value := fun input => do
  let (negative, rest) := readSign input
  let (digits, rest) ← readWhole rest
  let magnitude : Int := natOfDigits 10 digits
  return (← inRange? (if negative then -magnitude else magnitude), rest)

def readBased (base : Nat) : Reader Value := fun input => do
  let (digits, rest) ← readDigits (digitBelow? base) input
  return (← inRange? (natOfDigits base digits), rest)

/-- Places beyond which a decimal certainly is zero or infinite. -/
def placeLimit : Int := 400

def floatOfDecimal (negative : Bool) (digits : List Nat) (exponent : Int) : Binary64 :=
  let coefficient := natOfDigits 10 digits
  let places := (Nat.toDigits 10 coefficient).length + exponent
  let magnitude :=
    if coefficient = 0 ∨ places < -placeLimit then Binary64.zero
    else if placeLimit < places then .infinite false
    else Binary64.ofRatio (coefficient * Nat.pow 10 exponent.toNat) (Nat.pow 10 (-exponent).toNat)
  if negative then -magnitude else magnitude

def readFraction : Reader (List Nat)
  | '.' :: rest => readDigits decimalDigit? rest
  | _ => none

def readExponent : Reader Int
  | [] => none
  | mark :: rest =>
    if mark = 'e' ∨ mark = 'E' then do
      let (negative, rest) := readSign rest
      let (digits, rest) ← readDigits decimalDigit? rest
      let magnitude : Int := natOfDigits 10 digits
      return (if negative then -magnitude else magnitude, rest)
    else none

/-- Positive infinity cannot be written with digits. -/
def finiteOrBelow? (value : Binary64) : Option Value :=
  if value = .infinite false then none else some (.float value)

def readDecimal : Reader Value := fun input => do
  let (negative, rest) := readSign input
  let (whole, rest) ← readWhole rest
  match readFraction rest with
  | some (fraction, rest) =>
    let (exponent, rest) := (readExponent rest).getD (0, rest)
    let value := floatOfDecimal negative (whole ++ fraction) (exponent - fraction.length)
    return (← finiteOrBelow? value, rest)
  | none =>
    let (exponent, rest) ← readExponent rest
    return (← finiteOrBelow? (floatOfDecimal negative whole exponent), rest)

def readSpecial : Reader Value := fun input =>
  let (negative, rest) := readSign input
  match rest with
  | 'i' :: 'n' :: 'f' :: rest => some (.float (.infinite negative), rest)
  | 'n' :: 'a' :: 'n' :: rest => some (.float .nan, rest)
  | _ => none

def readNumber : Reader Value := fun input =>
  match input with
  | '0' :: 'x' :: rest => readBased 16 rest
  | '0' :: 'o' :: rest => readBased 8 rest
  | '0' :: 'b' :: rest => readBased 2 rest
  | _ => readDecimal input <|> readSpecial input <|> readInteger input

end Throughput.Toml
