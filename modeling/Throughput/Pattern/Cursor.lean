import Throughput.Pattern.Tree
import Throughput.Text.Blank

/-! Reading the text of a pattern: the place that has been reached, and steps over characters.

Blanks and comments are passed over where the pattern asks for it. -/

namespace Throughput.Pattern

structure Cursor where
  rest : List Char
  position : Position
  /-- Whether blanks and comments are left out. -/
  spaced : Bool
  groupNames : List (String × Span)

abbrev Reader := StateT Cursor (Except Fault)

namespace Cursor

def ofText (text : String) : Cursor := ⟨text.toList, .origin, false, []⟩

def advance (cursor : Cursor) : Cursor :=
  match cursor.rest with
  | [] => cursor
  | character :: rest => { cursor with rest, position := cursor.position.after character }

def skipFrom (inComment : Bool) : List Char → Position → List Char × Position
  | [], position => ([], position)
  | character :: rest, position =>
    if inComment then skipFrom (character ≠ '\n') rest (position.after character)
    else if isBlank character then skipFrom false rest (position.after character)
    else if character = '#' then skipFrom true rest (position.after character)
    else (character :: rest, position)

def skipBlanks (cursor : Cursor) : Cursor :=
  if cursor.spaced then
    let (rest, position) := skipFrom false cursor.rest cursor.position
    { cursor with rest, position }
  else cursor

/-- The first character after the current one that is no blank. A comment is only passed over up
to its first visible character; where nothing follows, a blank is taken after all. -/
def nextVisible? (cursor : Cursor) : Option Char :=
  let rest := cursor.rest.tail
  if cursor.spaced then
    let visible := match rest.dropWhile isBlank with
      | '#' :: comment => comment.dropWhile isBlank
      | visible => visible
    visible.head?.or rest.head?
  else rest.head?

end Cursor

namespace Reader

def fail {α : Type} (kind : FaultKind) (span : Span) : Reader α := throw (.ofSpan kind span)

def current? : Reader (Option Char) := return (← get).rest.head?

def next? : Reader (Option Char) := return (← get).rest.tail.head?

def isAtEnd : Reader Bool := return (← get).rest.isEmpty

def position : Reader Position := return (← get).position

def emptySpan : Reader Span := do
  let position ← position
  return ⟨position, position⟩

def characterSpan : Reader Span := do
  let cursor ← get
  return ⟨cursor.position, cursor.advance.position⟩

def spanFrom (start : Position) : Reader Span := return ⟨start, ← position⟩

def advance : Reader Unit := modify Cursor.advance

def skipBlanks : Reader Unit := modify Cursor.skipBlanks

def advanceVisible : Reader Unit := do
  advance
  skipBlanks

def accept (text : String) : Reader Bool := do
  let cursor ← get
  if text.toList.isPrefixOf cursor.rest then
    text.toList.forM fun _ => advance
    return true
  else return false

def repeatStep {σ : Type} (step : σ → Reader (Option σ)) : Nat → σ → Reader σ
  | 0, state => return state
  | count + 1, state => do
    match ← step state with
    | some state => repeatStep step count state
    | none => return state

/-- Repeats a step that takes in one character at least, until it gives no further state. -/
def loop {σ : Type} (state : σ) (step : σ → Reader (Option σ)) : Reader σ := do
  repeatStep step ((← get).rest.length + 1) state

/-- The characters from here on that satisfy a condition; what stands between them is passed over
as `skip` says. -/
def collect (condition : Char → Bool) (skip : Reader Unit) : Reader (List Char) := do
  let characters ← loop [] fun characters => do
    match ← current? with
    | some character =>
      if condition character then
        skip
        return some (character :: characters)
      else return none
    | none => return none
  return characters.reverse

end Reader

end Throughput.Pattern
