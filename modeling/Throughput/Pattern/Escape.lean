import Throughput.Pattern.Cursor

/-! Reading what a backslash starts: escaped characters, conditions and sets of characters. -/

namespace Throughput.Pattern.Reader

def isMeta (character : Char) : Bool := "\\.+*?()|[]\x7b\x7d^$#&-~".toList.contains character

def isEscapable (character : Char) : Bool :=
  isMeta character
    || (character.toNat < 0x80 && !character.isAlphanum && character ≠ '<' && character ≠ '>')

def hexValue? (character : Char) : Option Nat :=
  let code := character.toNat
  if '0'.toNat ≤ code ∧ code ≤ '9'.toNat then some (code - '0'.toNat)
  else if 'a'.toNat ≤ code ∧ code ≤ 'f'.toNat then some (code - 'a'.toNat + 10)
  else if 'A'.toNat ≤ code ∧ code ≤ 'F'.toNat then some (code - 'A'.toNat + 10)
  else none

def characterOf? (code : Nat) : Option Char := if code.isValidChar then some (.ofNat code) else none

def hexCharacter (digits : List Nat) (span : Span) : Reader Char :=
  match characterOf? (digits.foldl (fun value digit => value * 16 + digit) 0) with
  | some character => return character
  | none => fail .escapeHexInvalid span

def hexDigit : Reader Nat := do
  match (← current?).bind hexValue? with
  | some digit => return digit
  | none => fail .escapeHexInvalidDigit (← characterSpan)

def fixedHexCharacter (count : Nat) : Reader Char := do
  let start ← position
  let digits ← (List.range count).mapM fun index => do
    if index > 0 then
      advanceVisible
      if ← isAtEnd then fail .escapeUnexpectedEnd (← emptySpan)
    hexDigit
  advanceVisible
  hexCharacter digits (← spanFrom start)

def bracedHexCharacter : Reader Char := do
  let brace ← position
  let start := (← characterSpan).stop
  let digits ← loop [] fun digits => do
    advanceVisible
    match ← current? with
    | none | some '\x7d' => return none
    | some _ => return some ((← hexDigit) :: digits)
  if ← isAtEnd then fail .escapeUnexpectedEnd (← spanFrom brace)
  let inner ← spanFrom start
  advanceVisible
  if digits.isEmpty then fail .escapeHexEmpty (← spanFrom brace)
  hexCharacter digits.reverse inner

def hexLiteral (start : Position) (letter : Char) : Reader Tree := do
  advanceVisible
  if ← isAtEnd then fail .escapeUnexpectedEnd (← emptySpan)
  if (← current?) = some '\x7b' then
    let character ← bracedHexCharacter
    return .literal ⟨← spanFrom start, character, false⟩
  else
    let count := if letter = 'x' then 2 else if letter = 'u' then 4 else 8
    let character ← fixedHexCharacter count
    return .literal ⟨← spanFrom start, character, letter = 'x'⟩

def propertyQuery (text : String) : PropertyQuery :=
  let split? (mark : String) : Option PropertyQuery :=
    match text.splitOn mark with
    | name :: value :: more => some (.valued name (mark.intercalate (value :: more)))
    | _ => none
  (((split? "!=").or (split? ":")).or (split? "=")).getD (.named text)

def propertyClass (start : Position) (letter : Char) : Reader Tree := do
  let negated := letter = 'P'
  advanceVisible
  match ← current? with
  | none => fail .escapeUnexpectedEnd (← emptySpan)
  | some '\x7b' =>
    let text ← loop [] fun text => do
      advanceVisible
      match ← current? with
      | none | some '\x7d' => return none
      | some character => return some (character :: text)
    if ← isAtEnd then fail .escapeUnexpectedEnd (← emptySpan)
    advance
    return .property ⟨← spanFrom start, propertyQuery (String.ofList text.reverse), negated⟩
  | some '\\' => fail .unicodeClassInvalid (← characterSpan)
  | some character =>
    advanceVisible
    return .property ⟨← spanFrom start, .named character.toString, negated⟩

def shorthand? (letter : Char) : Option (Shorthand × Bool) :=
  match letter with
  | 'd' => some (.digit, false)
  | 'D' => some (.digit, true)
  | 's' => some (.space, false)
  | 'S' => some (.space, true)
  | 'w' => some (.word, false)
  | 'W' => some (.word, true)
  | _ => none

def controlCharacter? (letter : Char) : Option Char :=
  match letter with
  | 'a' => some '\x07'
  | 'f' => some '\x0c'
  | 't' => some '\t'
  | 'n' => some '\n'
  | 'r' => some '\r'
  | 'v' => some '\x0b'
  | _ => none

def assertion? (letter : Char) : Option AssertionKind :=
  match letter with
  | 'A' => some .textStart
  | 'z' => some .textEnd
  | 'b' => some .wordBoundary
  | 'B' => some .notWordBoundary
  | '<' => some .wordStart
  | '>' => some .wordEnd
  | _ => none

def isBoundaryLetter (character : Char) : Bool := character.isAlpha || character = '-'

/-- The condition of a name in braces after a word boundary. Braces that hold no name are left to
be read as a repetition. -/
def namedBoundary? (start : Position) : Reader (Option AssertionKind) := do
  let cursor ← get
  let brace := cursor.position
  advanceVisible
  match ← current? with
  | none => fail .wordBoundaryOrRepetitionUnclosed (← spanFrom start)
  | some first =>
    if !isBoundaryLetter first then
      set cursor
      return none
    let content ← position
    let name ← collect isBoundaryLetter advanceVisible
    if (← current?) ≠ some '\x7d' then fail .wordBoundaryUnclosed (← spanFrom brace)
    let inner ← spanFrom content
    advance
    match String.ofList name with
    | "start" => return some .wordStart
    | "end" => return some .wordEnd
    | "start-half" => return some .wordStartHalf
    | "end-half" => return some .wordEndHalf
    | _ => fail .wordBoundaryUnrecognized inner

def escape : Reader Tree := do
  let start ← position
  advance
  match ← current? with
  | none => fail .escapeUnexpectedEnd (← spanFrom start)
  | some letter =>
    if letter.isDigit then
      advance
      fail .backreference (← spanFrom start)
    else if ['x', 'u', 'U'].contains letter then hexLiteral start letter
    else if ['p', 'P'].contains letter then propertyClass start letter
    else
      advance
      let span ← spanFrom start
      match shorthand? letter, controlCharacter? letter, assertion? letter with
      | some (kind, negated), _, _ => return .shorthand ⟨span, kind, negated⟩
      | _, some character, _ => return .literal ⟨span, character, false⟩
      | _, _, some kind =>
        if letter = 'b' ∧ (← current?) = some '\x7b' then
          match ← namedBoundary? start with
          | some kind => return .assertion (← spanFrom start) kind
          | none => return .assertion span kind
        else return .assertion span kind
      | _, _, _ =>
        if isEscapable letter then return .literal ⟨span, letter, false⟩
        else fail .escapeUnrecognized span

end Throughput.Pattern.Reader
