import Throughput.Toml.Numbers

/-! TOML dates and times. They are checked, and kept as they are written. -/

namespace Throughput.Toml

def readPlaces : Nat → Reader (List Nat)
  | 0, input => some ([], input)
  | _ + 1, [] => none
  | places + 1, first :: rest => do
    let digit ← decimalDigit? first
    let (digits, rest) ← readPlaces places rest
    return (digit :: digits, rest)

def readBetween (places low high : Nat) : Reader Nat := fun input => do
  let (digits, rest) ← readPlaces places input
  let value := natOfDigits 10 digits
  if low ≤ value ∧ value ≤ high then return (value, rest) else none

def expect (expected : Char) : List Char → Option (List Char)
  | first :: rest => if first = expected then some rest else none
  | [] => none

def isLeapYear (year : Nat) : Bool := year % 4 = 0 && (year % 100 ≠ 0 || year % 400 = 0)

def daysIn (year month : Nat) : Nat :=
  match month with
  | 2 => if isLeapYear year then 29 else 28
  | 4 | 6 | 9 | 11 => 30
  | _ => 31

def afterDate? (input : List Char) : Option (List Char) := do
  let (year, rest) ← readBetween 4 0 9999 input
  let (month, rest) ← readBetween 2 1 12 (← expect '-' rest)
  let (_, rest) ← readBetween 2 1 (daysIn year month) (← expect '-' rest)
  return rest

def skipSecondFraction : List Char → List Char
  | '.' :: first :: rest =>
    if (decimalDigit? first).isSome then rest.dropWhile fun next => (decimalDigit? next).isSome
    else '.' :: first :: rest
  | rest => rest

/-- The second may be a leap second. -/
def afterTime? (input : List Char) : Option (List Char) := do
  let (_, rest) ← readBetween 2 0 23 input
  let (_, rest) ← readBetween 2 0 59 (← expect ':' rest)
  let (_, rest) ← readBetween 2 0 60 (← expect ':' rest)
  return skipSecondFraction rest

def afterOffset? : List Char → Option (List Char)
  | [] => none
  | first :: rest =>
    if first = 'Z' ∨ first = 'z' then some rest
    else if first = '+' ∨ first = '-' then do
      let (_, rest) ← readBetween 2 0 23 rest
      let (_, rest) ← readBetween 2 0 59 (← expect ':' rest)
      return rest
    else none

def afterDayTime? : List Char → Option (List Char)
  | [] => none
  | mark :: rest =>
    if mark = 'T' ∨ mark = 't' ∨ mark = ' ' then do
      let rest ← afterTime? rest
      return (afterOffset? rest).getD rest
    else none

def afterDatetime? (input : List Char) : Option (List Char) :=
  match afterDate? input with
  | some rest => some ((afterDayTime? rest).getD rest)
  | none => afterTime? input

def readDatetime : Reader Value := fun input => do
  let rest ← afterDatetime? input
  return (.datetime (String.ofList (input.take (input.length - rest.length))), rest)

end Throughput.Toml
