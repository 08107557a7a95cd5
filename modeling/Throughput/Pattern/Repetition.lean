import Throughput.Pattern.Cursor

/-! Reading repetition operators and applying them to the part before them. -/

namespace Throughput.Pattern.Reader

/-- A decimal number with blanks around it. What is wrong with it may count less than what follows,
so it is given back as a value. -/
def decimal : Reader (Except Fault Nat) := do
  let _ ← collect isBlank advance
  let start ← position
  let digits ← collect Char.isDigit advanceVisible
  let span ← spanFrom start
  let _ ← collect isBlank advanceVisible
  let value := digits.foldl (fun value digit => value * 10 + (digit.toNat - '0'.toNat)) 0
  if digits.isEmpty then return .error (.ofSpan .repetitionCountEmpty span)
  else if value < UInt32.size then return .ok value
  else return .error (.ofSpan .decimalInvalid span)

def require (count : Except Fault Nat) : Reader Nat :=
  match count with
  | .ok count => return count
  | .error fault => throw fault

abbrev Counts := Nat × Option Nat

def bracedCounts (start : Position) : Reader Counts := do
  let unclosed {α : Type} : Reader α := do fail .repetitionCountUnclosed (← spanFrom start)
  let least ← decimal
  match ← current? with
  | none => unclosed
  | some ',' =>
    advanceVisible
    match ← current? with
    | none => unclosed
    | some '\x7d' => return (← require least, none)
    | some _ =>
      let least ← require least
      let most ← require (← decimal)
      return (least, some most)
  | some _ =>
    let count ← require least
    return (count, some count)

/-- A question mark behind an operator asks for few repetitions; it does not change what matches. -/
def acceptLazy : Reader Unit := do
  let _ ← accept "?"

def repeatable (items : List Tree) : Reader (Tree × List Tree) := do
  match items with
  | item :: rest =>
    if item.isRepeatable then return (item, rest) else fail .repetitionMissing (← emptySpan)
  | [] => fail .repetitionMissing (← emptySpan)

def repetition (item : Tree) (counts : Counts) : Reader Tree :=
  return .repetition (← spanFrom item.span.start) counts.1 counts.2 item

/-- Applies an operator of one character to the last part; the parts are given last one first. -/
def shortRepetition (counts : Counts) (items : List Tree) : Reader (List Tree) := do
  let (item, rest) ← repeatable items
  advance
  acceptLazy
  return (← repetition item counts) :: rest

def countedRepetition (items : List Tree) : Reader (List Tree) := do
  let start ← position
  let (item, rest) ← repeatable items
  advanceVisible
  if ← isAtEnd then fail .repetitionCountUnclosed (← spanFrom start)
  let counts ← bracedCounts start
  if (← current?) ≠ some '\x7d' then fail .repetitionCountUnclosed (← spanFrom start)
  advanceVisible
  acceptLazy
  if counts.2.any (· < counts.1) then fail .repetitionCountInvalid (← spanFrom start)
  return (← repetition item counts) :: rest

end Throughput.Pattern.Reader
