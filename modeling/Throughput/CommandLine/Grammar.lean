import Throughput.CommandLine.Usage
import Throughput.Text.Utf8

/-! Reading arguments: options with and without values, and at most one operand.

An option that takes a value stays pending until its value is known to be complete. Its value
is checked only when the next argument is taken in, so an argument that fits nowhere is
reported before a bad value in front of it. -/

namespace Throughput

abbrev Argument := List UInt8

structure Parameter (σ : Type) where
  long : String
  short : Option Char
  /-- How messages show it. -/
  label : String
  takesValue : Bool
  /-- Takes in one occurrence with its value, which is empty for a flag. -/
  accept : Argument → σ → Except UsageError σ

structure Grammar (σ : Type) where
  options : List (Parameter σ)
  operand : Option (Parameter σ)

structure Progress (σ : Type) where
  settings : σ
  pending : Option (Parameter σ × Option Argument)
  hasOperand : Bool

inductive Token
  /-- Everything after it is an operand. -/
  | escape
  | long (name : Argument) (value : Option Argument)
  | short (letters : Argument)
  | plain
deriving DecidableEq

namespace Token

def dash : UInt8 := 0x2D

def equals : UInt8 := 0x3D

def longOf (text : Argument) : Token :=
  match text.dropWhile (· != equals) with
  | [] => .long text none
  | _ :: value => .long (text.takeWhile (· != equals)) (some value)

def ofArgument : Argument → Token
  | first :: second :: rest =>
    if first = dash then
      if second = dash then if rest.isEmpty then .escape else longOf rest
      else .short (second :: rest)
    else .plain
  | _ => .plain

def unknownLetters (letters : Argument) : String :=
  match Utf8.pieces letters with
  | .character letter :: _ => "-" ++ letter.toString
  | _ => "-" ++ Utf8.lossy letters

def attached (rest : Argument) : Option Argument :=
  match rest with
  | [] => none
  | first :: value => if first = equals then some value else some rest

end Token

namespace Progress

variable {σ : Type}

def start (settings : σ) : Progress σ := ⟨settings, none, false⟩

def settle (progress : Progress σ) : Except UsageError (Progress σ) :=
  match progress.pending with
  | none => .ok progress
  | some (parameter, none) => .error (.missingValue parameter.label)
  | some (parameter, some value) => do
    return { progress with settings := ← parameter.accept value progress.settings, pending := none }

def meet (progress : Progress σ) (parameter : Parameter σ) (value : Option Argument) :
    Except UsageError (Progress σ) :=
  match parameter.takesValue, value with
  | false, some value => .error (.unneededValue parameter.label (Utf8.lossy value))
  | true, none => do return { ← progress.settle with pending := some (parameter, none) }
  | _, _ => do
    let progress ← progress.settle
    return { progress with settings := ← parameter.accept (value.getD []) progress.settings }

end Progress

namespace Grammar

variable {σ : Type}

def ofLong? (grammar : Grammar σ) (name : Argument) : Option (Parameter σ) :=
  grammar.options.find? fun parameter => Utf8.bytes parameter.long == name

def ofShort? (grammar : Grammar σ) (letter : UInt8) : Option (Parameter σ) :=
  grammar.options.find? fun parameter =>
    parameter.short.any fun short => short.toNat = letter.toNat

/-- Takes in letters after one dash; the rest after an option with a value is its value. -/
def readLetters (grammar : Grammar σ) : Argument → Progress σ → Except UsageError (Progress σ)
  | [], progress => .ok progress
  | letter :: rest, progress =>
    match grammar.ofShort? letter with
    | none => .error (.unknownArgument (Token.unknownLetters (letter :: rest)))
    | some parameter =>
      if parameter.takesValue then progress.meet parameter (Token.attached rest)
      else do grammar.readLetters rest (← progress.meet parameter none)

structure Remainder where
  argument : Argument
  escaped : Bool
  rest : List Argument

def waiting? (progress : Progress σ) : Option (Parameter σ) :=
  match progress.pending with
  | some (parameter, none) => some parameter
  | _ => none

def read (grammar : Grammar σ) : Bool → List Argument → Progress σ →
    Except UsageError (Progress σ × Option Remainder)
  | _, [], progress => .ok (progress, none)
  | escaped, argument :: rest, progress =>
    let place : Except UsageError (Progress σ × Option Remainder) :=
      match grammar.operand with
      | some operand =>
        if progress.hasOperand then .ok (progress, some ⟨argument, escaped, rest⟩)
        else do
          let progress ← progress.settle
          grammar.read escaped rest
            { progress with pending := some (operand, some argument), hasOperand := true }
      | none => .ok (progress, some ⟨argument, escaped, rest⟩)
    if escaped then place
    else
      match Token.ofArgument argument with
      | .escape => grammar.read true rest progress
      | .long name value =>
        match grammar.ofLong? name with
        | some parameter => do grammar.read false rest (← progress.meet parameter value)
        | none => .error (.unknownArgument ("--" ++ Utf8.lossy name))
      | .short letters => do grammar.read false rest (← grammar.readLetters letters progress)
      | .plain =>
        match waiting? progress with
        | some parameter =>
          grammar.read false rest { progress with pending := some (parameter, some argument) }
        | none => place

def readAll (grammar : Grammar σ) (settings : σ) (arguments : List Argument) :
    Except UsageError σ := do
  match ← grammar.read false arguments (.start settings) with
  | (progress, none) => return (← progress.settle).settings
  | (_, some remainder) => throw (.unknownArgument (Utf8.lossy remainder.argument))

end Grammar

end Throughput
