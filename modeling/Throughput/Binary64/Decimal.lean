import Throughput.Binary64.Basic

/-! The shortest decimal that reads back as a given positive magnitude.

Decimal grids are tried from coarse to fine; the first grid with a point among the numbers that
round to the magnitude decides how many digits are needed, and the nearer point is taken. -/

namespace Throughput

inductive Tie
  | up
  | even
deriving DecidableEq

structure Decimal where
  coefficient : Nat
  exponent : Int
deriving DecidableEq

/-- The numbers that round to one magnitude, in quarters of a unit. -/
structure Reach where
  low : Nat
  high : Nat
  closed : Bool

namespace Magnitude

/-- Half way to both neighbours; the lower neighbour is nearer at the start of a binade. -/
def reach (magnitude : Magnitude) : Reach :=
  let step := spacing magnitude.units
  let startsBinade := magnitude.units = Nat.pow 2 magnitude.units.log2 ∧ 1 < step
  let below := if startsBinade then step else 2 * step
  { low := 4 * magnitude.units - below
    high := 4 * magnitude.units + 2 * step
    closed := magnitude.units / step % 2 = 0 }

def nearestOnGrid? (tie : Tie) (magnitude : Magnitude) (exponent : Int) : Option Nat :=
  let enlarged := Nat.pow 10 (-exponent).toNat
  let value := magnitude.units * enlarged
  let step := one * Nat.pow 10 exponent.toNat
  let reach := magnitude.reach
  let inReach (point : Nat) : Bool :=
    let place := 4 * point * step
    if reach.closed then reach.low * enlarged ≤ place ∧ place ≤ reach.high * enlarged
    else reach.low * enlarged < place ∧ place < reach.high * enlarged
  let floor := value / step
  let twice := 2 * (value % step)
  let upper := twice > step ∨ (twice = step ∧ (tie = .up ∨ floor % 2 = 1))
  match inReach floor, inReach (floor + 1) with
  | true, true => some (if upper then floor + 1 else floor)
  | true, false => some floor
  | false, true => some (floor + 1)
  | false, false => none

/-- Tries ever finer grids; seventeen digits always suffice, so the steps never run out. -/
def shortestFrom (tie : Tie) (magnitude : Magnitude) : Nat → Int → Decimal
  | 0, exponent =>
    ⟨magnitude.units * Nat.pow 10 (-exponent).toNat / (one * Nat.pow 10 exponent.toNat), exponent⟩
  | steps + 1, exponent =>
    match nearestOnGrid? tie magnitude exponent with
    | some coefficient => ⟨coefficient, exponent⟩
    | none => shortestFrom tie magnitude steps (exponent - 1)

def exponentAbove (magnitude : Magnitude) : Int :=
  ((magnitude.units.log2 : Int) - 1073) * 30103 / 100000 + 1

def shortest (tie : Tie) (magnitude : Magnitude) : Decimal :=
  if magnitude.units = 0 then ⟨0, 0⟩
  else shortestFrom tie magnitude 24 magnitude.exponentAbove

end Magnitude

end Throughput
