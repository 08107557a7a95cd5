import Throughput.Toml.Characters

/-! TOML strings: basic ones with escapes and literal ones without, on one line or several. -/

namespace Throughput.Toml

def hexDigit? (character : Char) : Option Nat :=
  let code := character.toNat
  if '0' ≤ character ∧ character ≤ '9' then some (code - '0'.toNat)
  else if 'A' ≤ character ∧ character ≤ 'F' then some (code - 'A'.toNat + 10)
  else if 'a' ≤ character ∧ character ≤ 'f' then some (code - 'a'.toNat + 10)
  else none

/-- The character of a code point; surrogates are none. -/
def scalar? (code : Nat) : Option Char :=
  if code.isValidChar then some (Char.ofNat code) else none

def simpleEscape? (character : Char) : Option Char :=
  match character with
  | 'b' => some '\x08'
  | 't' => some '\t'
  | 'n' => some '\n'
  | 'f' => some '\x0c'
  | 'r' => some '\r'
  | '"' => some '"'
  | '\\' => some '\\'
  | _ => none

inductive EscapeState
  | outside
  | backslash
  /-- Hexadecimal digits still to come, and the code so far. -/
  | code (digits : Nat) (value : Nat)
deriving DecidableEq

/-- Takes one character of a basic string: what it adds, and what is pending after it. -/
def escapeStep : EscapeState → Char → Option (List Char × EscapeState)
  | .outside, character =>
    if character = '\\' then some ([], .backslash)
    else if isVisible character then some ([character], .outside)
    else none
  | .backslash, 'u' => some ([], .code 4 0)
  | .backslash, 'U' => some ([], .code 8 0)
  | .backslash, character => (simpleEscape? character).map fun value => ([value], .outside)
  | .code digits value, character => do
    let code := value * 16 + (← hexDigit? character)
    if digits ≤ 1 then return ([← scalar? code], .outside)
    else return ([], .code (digits - 1) code)

def basicFrom (state : EscapeState) : Reader (List Char)
  | [] => none
  | character :: rest =>
    if state = .outside ∧ character = '"' then some ([], rest)
    else do
      let (added, next) ← escapeStep state character
      let (content, rest) ← basicFrom next rest
      return (added ++ content, rest)

def readBasic : Reader String := fun input => do
  let (content, rest) ← basicFrom .outside input
  return (String.ofList content, rest)

def readLiteral : Reader String := fun input =>
  let content := input.takeWhile fun character => character ≠ '\'' && isVisible character
  match input.drop content.length with
  | '\'' :: rest => some (String.ofList content, rest)
  | _ => none

/-- Splits off the quotes at the front that close a string of several lines: three of them, after
up to two that belong to the string. -/
def closing? (quote : Char) (input : List Char) : Option (List Char × List Char) :=
  let quotes := input.takeWhile (· = quote)
  if quotes.length < 3 then none
  else
    let kept := min (quotes.length - 3) 2
    some (quotes.take kept, input.drop (kept + 3))

def skipBlankLines : List Char → List Char
  | ' ' :: rest => skipBlankLines rest
  | '\t' :: rest => skipBlankLines rest
  | '\n' :: rest => skipBlankLines rest
  | '\r' :: '\n' :: rest => skipBlankLines rest
  | rest => rest

def afterContinuation? (input : List Char) : Option (List Char) :=
  (afterLineBreak? (skipSpaces input)).map skipBlankLines

def readEscape : Nat → EscapeState → Reader Char
  | 0, _, _ => none
  | _, _, [] => none
  | steps + 1, state, character :: rest => do
    match ← escapeStep state character with
    | (value :: _, _) => return (value, rest)
    | ([], next) => readEscape steps next rest

def basicLines : Nat → Reader (List Char)
  | 0, _ => none
  | _, [] => none
  | steps + 1, character :: rest =>
    match closing? '"' (character :: rest) with
    | some result => some result
    | none =>
      if character = '\\' then
        match afterContinuation? rest with
        | some rest => basicLines steps rest
        | none => do
          let (value, rest) ← readEscape 9 .backslash rest
          let (content, rest) ← basicLines steps rest
          return (value :: content, rest)
      else
        match afterLineBreak? (character :: rest) with
        | some rest => do
          let (content, rest) ← basicLines steps rest
          return ('\n' :: content, rest)
        | none =>
          if isVisible character then do
            let (content, rest) ← basicLines steps rest
            return (character :: content, rest)
          else none

def literalLines : Nat → Reader (List Char)
  | 0, _ => none
  | _, [] => none
  | steps + 1, character :: rest =>
    match closing? '\'' (character :: rest) with
    | some result => some result
    | none =>
      match afterLineBreak? (character :: rest) with
      | some rest => do
        let (content, rest) ← literalLines steps rest
        return ('\n' :: content, rest)
      | none =>
        if isVisible character then do
          let (content, rest) ← literalLines steps rest
          return (character :: content, rest)
        else none

def skipFirstBreak (input : List Char) : List Char := (afterLineBreak? input).getD input

def linesWith (body : Nat → Reader (List Char)) : Reader String := fun input => do
  let (content, rest) ← body (input.length + 1) (skipFirstBreak input)
  return (String.ofList content, rest)

def readString : Reader String
  | '"' :: '"' :: '"' :: rest => linesWith basicLines rest
  | '"' :: rest => readBasic rest
  | '\'' :: '\'' :: '\'' :: rest => linesWith literalLines rest
  | '\'' :: rest => readLiteral rest
  | _ => none

end Throughput.Toml
