import Throughput.Binary64.Decimal

/-! Texts of binary64 numbers: shortest round-trip decimals in several styles, and fixed places. -/

namespace Throughput

structure NumberStyle where
  tie : Tie
  /-- Whether a number with this power of ten as its leading digit is written without exponent. -/
  isPositional : Int → Bool
  /-- Whole numbers written without exponent end in a point and a zero. -/
  keepsPoint : Bool
  /-- Positive exponents carry a sign. -/
  signedExponent : Bool

namespace NumberStyle

/-- Never an exponent, and no point in whole numbers. -/
def plain : NumberStyle := ⟨.up, fun _ => true, false, false⟩

/-- Positional from 10^-4 up to but not including 10^16. -/
def pointed : NumberStyle := ⟨.up, fun leading => -4 ≤ leading ∧ leading < 16, true, false⟩

def scientific : NumberStyle := ⟨.up, fun _ => false, false, false⟩

end NumberStyle

namespace Decimal

def zeros (count : Nat) : String := String.ofList (List.replicate count '0')

def leading (decimal : Decimal) : Int :=
  (Nat.toDigits 10 decimal.coefficient).length - 1 + decimal.exponent

def positional (keepsPoint : Bool) (decimal : Decimal) : String :=
  let digits := Nat.toDigits 10 decimal.coefficient
  let point := (digits.length : Int) + decimal.exponent
  if 0 ≤ decimal.exponent then
    String.ofList digits ++ zeros decimal.exponent.toNat ++ (if keepsPoint then ".0" else "")
  else if 0 < point then
    String.ofList (digits.take point.toNat) ++ "." ++ String.ofList (digits.drop point.toNat)
  else
    "0." ++ zeros (-point).toNat ++ String.ofList digits

def scientific (signedExponent : Bool) (decimal : Decimal) : String :=
  let digits := Nat.toDigits 10 decimal.coefficient
  let fraction := digits.drop 1
  String.ofList (digits.take 1)
    ++ (if fraction.isEmpty then "" else "." ++ String.ofList fraction)
    ++ "e" ++ (if signedExponent && 0 < decimal.leading then "+" else "")
    ++ toString decimal.leading

def text (style : NumberStyle) (decimal : Decimal) : String :=
  if style.isPositional decimal.leading then positional style.keepsPoint decimal
  else scientific style.signedExponent decimal

end Decimal

namespace Binary64

def signText (negative : Bool) : String := if negative then "-" else ""

/-- The shortest decimal text that reads back as the number. -/
def text (style : NumberStyle) : Binary64 → String
  | .nan => "NaN"
  | .infinite negative => signText negative ++ "inf"
  | .finite negative magnitude => signText negative ++ (magnitude.shortest style.tie).text style

def hundredths (magnitude : Magnitude) : Nat :=
  nearestEven (magnitude.units * 100) Magnitude.one

def twoPlaces : Binary64 → String
  | .nan => "NaN"
  | .infinite negative => signText negative ++ "inf"
  | .finite negative magnitude =>
    let total := hundredths magnitude
    let cents := total % 100
    signText negative ++ toString (total / 100) ++ "."
      ++ (if cents < 10 then "0" else "") ++ toString cents

end Binary64

end Throughput
