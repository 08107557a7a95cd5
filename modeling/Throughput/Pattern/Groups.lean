import Throughput.Pattern.Brackets
import Throughput.Unicode.Property

/-! Reading what an opening parenthesis starts: a group, with or without a name or flags of its
own, or a change of the flags for what follows. -/

namespace Throughput.Pattern.Reader

inductive GroupOpening
  /-- A change of flags, up to its closing parenthesis. -/
  | directive (changes : FlagChanges) (flags : Tree)
  | group (span : Span) (changes : FlagChanges) (captures : Bool)

def isNameCharacter (isFirst : Bool) (character : Char) : Bool :=
  if isFirst then character = '_' || Unicode.letters.contains character
  else ['_', '.', '[', ']'].contains character || Unicode.lettersAndNumbers.contains character

def groupName : Reader Unit := do
  requireMore .groupNameUnclosed emptySpan
  let start ← position
  let name ← loop [] fun name => do
    match ← current? with
    | none | some '>' => return none
    | some character =>
      if !isNameCharacter name.isEmpty character then fail .groupNameInvalid (← characterSpan)
      advance
      return some (character :: name)
  let span ← spanFrom start
  requireMore .groupNameUnclosed emptySpan
  advance
  if name.isEmpty then fail .groupNameEmpty span
  let name := String.ofList name.reverse
  match (← get).groupNames.find? fun held => held.1 = name with
  | some held => throw ⟨.groupNameDuplicate, span, some held.2⟩
  | none => modify fun cursor => { cursor with groupNames := (name, span) :: cursor.groupNames }

def flag? (letter : Char) : Option Flag :=
  match letter with
  | 'i' => some .caseless
  | 'm' => some .multiline
  | 's' => some .dotAll
  | 'U' => some .swapGreed
  | 'u' => some .unicode
  | 'R' => some .crlf
  | 'x' => some .spaced
  | _ => none

/-- Flags that have been read, last one first, and the hyphen from which on they are negated. -/
structure FlagReading where
  changes : List (Flag × Bool × Span)
  negation : Option Span
  isDangling : Bool

def flagStep (reading : FlagReading) : Reader (Option FlagReading) := do
  match ← current? with
  | none | some ':' | some ')' => return none
  | some letter =>
    let span ← characterSpan
    let reading ←
      if letter = '-' then
        match reading.negation with
        | some earlier => throw ⟨.flagRepeatedNegation, span, some earlier⟩
        | none => pure { reading with negation := some span, isDangling := true }
      else
        match flag? letter with
        | none => fail .flagUnrecognized span
        | some flag =>
          match reading.changes.find? fun change => change.1 = flag with
          | some (_, _, earlier) => throw ⟨.flagDuplicate, span, some earlier⟩
          | none =>
            pure { reading with
              changes := (flag, reading.negation.isNone, span) :: reading.changes
              isDangling := false }
    advance
    requireMore .flagUnexpectedEnd emptySpan
    return some reading

def flagChanges : Reader FlagChanges := do
  let reading ← loop ⟨[], none, false⟩ flagStep
  match reading.isDangling, reading.negation with
  | true, some span => fail .flagDanglingNegation span
  | _, _ => return reading.changes.reverse.map fun (flag, isOn, _) => (flag, isOn)

def extension (opening : Span) (inner : Span) : Reader GroupOpening := do
  requireMore .groupUnclosed (return opening)
  let changes ← flagChanges
  let last ← current?
  advance
  if last = some ')' then
    if changes.isEmpty then fail .repetitionMissing inner
    return .directive changes (.flags (← spanFrom opening.start) changes)
  else return .group opening changes false

/-- Steps over the start of a condition on what comes before or after; there are no such groups. -/
def acceptLookAround : Reader Bool := do
  if ← accept "?=" then return true
  if ← accept "?!" then return true
  if ← accept "?<=" then return true
  accept "?<!"

def groupOpening : Reader GroupOpening := do
  let opening ← characterSpan
  advanceVisible
  if ← acceptLookAround then fail .lookAround (← spanFrom opening.start)
  let inner ← emptySpan
  let isNamed ← if ← accept "?P<" then pure true else accept "?<"
  if isNamed then
    groupName
    return .group opening [] true
  else if ← accept "?" then extension opening inner
  else return .group opening [] true

end Throughput.Pattern.Reader
