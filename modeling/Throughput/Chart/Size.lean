import Throughput.Chart.Spec
import Throughput.Text.Blank

/-! Image sizes written as a width and a height with an x between them. -/

namespace Throughput

inductive NumberError
  | empty
  | invalidDigit
  | tooLarge
deriving DecidableEq

def NumberError.message : NumberError → String
  | .empty => "cannot parse integer from empty string"
  | .invalidDigit => "invalid digit found in string"
  | .tooLarge => "number too large to fit in target type"

inductive SizeError
  | noSeparator (text : String)
  | width (cause : NumberError)
  | height (cause : NumberError)
  | zero (size : ImageSize)
deriving DecidableEq

def SizeError.message : SizeError → String
  | .noSeparator text => "expected WIDTHxHEIGHT, got '" ++ text ++ "'"
  | .width cause => "invalid width: " ++ cause.message
  | .height cause => "invalid height: " ++ cause.message
  | .zero size => s!"image size must be non-zero, got {size.width}x{size.height}"

namespace ImageSize

/-- One side as far as its digits have been read; the first fault from the left decides. -/
def sideStep (value : Nat) (character : Char) : Except NumberError Nat :=
  if ¬character.isDigit then .error .invalidDigit
  else
    let next := value * 10 + (character.toNat - '0'.toNat)
    if next < UInt32.size then .ok next else .error .tooLarge

/-- A number in 32 bits; a plus sign may stand before its digits. -/
def sideOf (text : List Char) : Except NumberError UInt32 :=
  match text with
  | [] => .error .empty
  | ['+'] => .error .invalidDigit
  | '+' :: digits => UInt32.ofNat <$> digits.foldlM sideStep 0
  | digits => UInt32.ofNat <$> digits.foldlM sideStep 0

def isSeparator (character : Char) : Bool := character = 'x' || character = 'X'

/-- Reads a size; blanks around its numbers do not count. -/
def ofText (text : String) : Except SizeError ImageSize :=
  match text.toList.dropWhile (!isSeparator ·) with
  | [] => .error (.noSeparator text)
  | _ :: after => do
    let before := text.toList.takeWhile (!isSeparator ·)
    let width ← (sideOf (trimBlanks before)).mapError .width
    let height ← (sideOf (trimBlanks after)).mapError .height
    if width = 0 ∨ height = 0 then throw (.zero ⟨width, height⟩)
    return ⟨width, height⟩

end ImageSize

end Throughput
