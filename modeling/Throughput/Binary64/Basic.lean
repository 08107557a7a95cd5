import Throughput.Binary64.Magnitude

/-! Binary64 numbers as exact values: not-a-number, the two infinities, and signed magnitudes.

Arithmetic computes the exact result and rounds it once. Signed zeros are kept apart;
not-a-number has no payload. -/

namespace Throughput

inductive Binary64
  | nan
  | infinite (negative : Bool)
  | finite (negative : Bool) (magnitude : Magnitude)
deriving DecidableEq

namespace Binary64

/-- The nearest number to a signed quotient of units; infinite when that is out of range. -/
def round (negative : Bool) (numerator denominator : Nat) : Binary64 :=
  match Magnitude.round? numerator denominator with
  | some magnitude => .finite negative magnitude
  | none => .infinite negative

def zero : Binary64 := .finite false .zero

instance : Inhabited Binary64 := ⟨zero⟩

def ofRatio (numerator denominator : Nat) : Binary64 :=
  round false (numerator * Magnitude.one) denominator

def ofNat (value : Nat) : Binary64 := ofRatio value 1

def ofInt (value : Int) : Binary64 :=
  round (decide (value < 0)) (value.natAbs * Magnitude.one) 1

def isNegative : Binary64 → Bool
  | .nan => false
  | .infinite negative => negative
  | .finite negative _ => negative

def isFinite : Binary64 → Bool
  | .finite _ _ => true
  | _ => false

def isInfinite : Binary64 → Bool
  | .infinite _ => true
  | _ => false

def neg : Binary64 → Binary64
  | .nan => .nan
  | .infinite negative => .infinite !negative
  | .finite negative magnitude => .finite (!negative) magnitude

instance : Neg Binary64 := ⟨neg⟩

def abs : Binary64 → Binary64
  | .nan => .nan
  | .infinite _ => .infinite false
  | .finite _ magnitude => .finite false magnitude

def signedUnits (negative : Bool) (magnitude : Magnitude) : Int :=
  if negative then -(magnitude.units : Int) else magnitude.units

/-- Position on the extended number line in units, with the infinities just outside the finite
range; not-a-number has none. -/
def position : Binary64 → Option Int
  | .nan => none
  | .infinite negative => some (if negative then -(Magnitude.limit : Int) else Magnitude.limit)
  | .finite negative magnitude => some (signedUnits negative magnitude)

/-- Numeric comparison; every comparison with not-a-number is false. -/
def lt (left right : Binary64) : Bool :=
  match left.position, right.position with
  | some x, some y => decide (x < y)
  | _, _ => false

def le (left right : Binary64) : Bool :=
  match left.position, right.position with
  | some x, some y => decide (x ≤ y)
  | _, _ => false

/-- Numeric equality: the two zeros are equal and not-a-number differs from itself. -/
def eq (left right : Binary64) : Bool :=
  match left.position, right.position with
  | some x, some y => decide (x = y)
  | _, _ => false

/-- The smaller of two numbers; a number wins against not-a-number and the left one wins ties. -/
protected def min (left right : Binary64) : Binary64 :=
  match left with
  | .nan => right
  | _ => if lt right left then right else left

/-- The larger of two numbers; a number wins against not-a-number and the left one wins ties. -/
protected def max (left right : Binary64) : Binary64 :=
  match left with
  | .nan => right
  | _ => if lt left right then right else left

def widen : Option (Binary64 × Binary64) → Binary64 → Option (Binary64 × Binary64)
  | none, value => some (value, value)
  | some (low, high), value => some (low.min value, high.max value)

/-- Least and greatest number of a list; numbers win against not-a-number. -/
def extremes (values : List Binary64) : Option (Binary64 × Binary64) :=
  values.foldl widen none

/-- An exact zero sum is negative only when both terms are. -/
def add : Binary64 → Binary64 → Binary64
  | .nan, _ => .nan
  | _, .nan => .nan
  | .infinite left, .infinite right => if left = right then .infinite left else .nan
  | .infinite left, .finite _ _ => .infinite left
  | .finite _ _, .infinite right => .infinite right
  | .finite leftSign left, .finite rightSign right =>
    let total := signedUnits leftSign left + signedUnits rightSign right
    if total = 0 then .finite (leftSign && rightSign) .zero
    else round (decide (total < 0)) total.natAbs 1

instance : Add Binary64 := ⟨add⟩

def sub (left right : Binary64) : Binary64 := left + -right

instance : Sub Binary64 := ⟨sub⟩

def mul : Binary64 → Binary64 → Binary64
  | .nan, _ => .nan
  | _, .nan => .nan
  | .infinite left, .infinite right => .infinite (left != right)
  | .infinite left, .finite right magnitude =>
    if magnitude.units = 0 then .nan else .infinite (left != right)
  | .finite left magnitude, .infinite right =>
    if magnitude.units = 0 then .nan else .infinite (left != right)
  | .finite leftSign left, .finite rightSign right =>
    round (leftSign != rightSign) (left.units * right.units) Magnitude.one

instance : Mul Binary64 := ⟨mul⟩

def div : Binary64 → Binary64 → Binary64
  | .nan, _ => .nan
  | _, .nan => .nan
  | .infinite _, .infinite _ => .nan
  | .infinite left, .finite right _ => .infinite (left != right)
  | .finite left _, .infinite right => .finite (left != right) .zero
  | .finite leftSign left, .finite rightSign right =>
    if right.units = 0 then
      if left.units = 0 then .nan else .infinite (leftSign != rightSign)
    else
      round (leftSign != rightSign) (left.units * Magnitude.one) right.units

instance : Div Binary64 := ⟨div⟩

def greatest : Binary64 := round false (Magnitude.limit - Nat.pow 2 2045) 1

def signPlace : Nat := 0x8000000000000000

/-- Place value of the exponent in an interchange word; the fraction stands below it. -/
def exponentPlace : Nat := 0x10000000000000

def ofBits (word : UInt64) : Binary64 :=
  let bits := word.toNat
  let negative := decide (bits ≥ signPlace)
  let exponent := bits / exponentPlace % 2048
  let fraction := bits % exponentPlace
  if exponent = 2047 then
    if fraction = 0 then .infinite negative else .nan
  else if exponent = 0 then round negative fraction 1
  else round negative ((exponentPlace + fraction) * Nat.pow 2 (exponent - 1)) 1

def toBits : Binary64 → UInt64
  | .nan => 0x7ff8000000000000
  | .infinite negative => if negative then 0xfff0000000000000 else 0x7ff0000000000000
  | .finite negative magnitude =>
    let sign := if negative then signPlace else 0
    let units := magnitude.units
    if units < exponentPlace then UInt64.ofNat (sign + units)
    else
      let shift := units.log2 - 52
      UInt64.ofNat (sign + (shift + 1) * exponentPlace + (units / Nat.pow 2 shift - exponentPlace))

end Binary64

end Throughput
