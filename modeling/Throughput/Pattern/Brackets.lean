import Throughput.Pattern.Escape

/-! Reading sets of characters in brackets. Sets can hold other sets, and can be combined by
operators that bind less than standing side by side and group from the left. -/

namespace Throughput.Pattern.Reader

structure SetUnion where
  span : Span
  items : List SetTree

namespace SetUnion

def push (union : SetUnion) (item : SetTree) : SetUnion :=
  let start := if union.items.isEmpty then item.span.start else union.span.start
  ⟨⟨start, item.span.stop⟩, item :: union.items⟩

def tree (union : SetUnion) : SetTree :=
  match union.items with
  | [] => .empty union.span
  | [item] => item
  | items => .union union.span items.reverse

end SetUnion

structure OpenSet where
  /-- What stands before it in the set around it. -/
  outer : SetUnion
  /-- From its opening bracket up to where its content starts. -/
  span : Span
  negated : Bool
  left : Option (SetOperation × SetTree)

namespace OpenSet

def close (openSet : OpenSet) (right : SetTree) : SetTree :=
  match openSet.left with
  | none => right
  | some (kind, left) => .operation ⟨left.span.start, right.span.stop⟩ kind left right

end OpenSet

inductive SetProgress
  | reading (current : OpenSet) (union : SetUnion) (outer : List OpenSet)
  | done (set : Tree)

def asciiKind? (name : String) : Option AsciiKind :=
  match name with
  | "alnum" => some .alnum
  | "alpha" => some .alpha
  | "ascii" => some .ascii
  | "blank" => some .blank
  | "cntrl" => some .cntrl
  | "digit" => some .digit
  | "graph" => some .graph
  | "lower" => some .lower
  | "print" => some .print
  | "punct" => some .punct
  | "space" => some .space
  | "upper" => some .upper
  | "word" => some .word
  | "xdigit" => some .xdigit
  | _ => none

def asciiClass? : Reader (Option SetTree) := do
  let cursor ← get
  let start := cursor.position
  advance
  if !(← accept ":") then
    set cursor
    return none
  let negated ← accept "^"
  let name ← collect (· ≠ ':') advance
  let closed ← accept ":]"
  match asciiKind? (String.ofList name), closed with
  | some kind, true => return some (.ascii (← spanFrom start) kind negated)
  | _, _ =>
    set cursor
    return none

def requireMore (kind : FaultKind) (span : Reader Span) : Reader Unit := do
  if ← isAtEnd then fail kind (← span)

def verbatim (character : Char) : Reader SetTree := do
  let span ← characterSpan
  advanceVisible
  return .literal ⟨span, character, false⟩

def openSet (outer : SetUnion) : Reader (OpenSet × SetUnion) := do
  let start ← position
  advanceVisible
  requireMore .classUnclosed (spanFrom start)
  let negated := (← current?) = some '^'
  if negated then
    advanceVisible
    requireMore .classUnclosed (spanFrom start)
  let union ← loop (⟨← emptySpan, []⟩ : SetUnion) fun union => do
    if (← current?) = some '-' then
      let item ← verbatim '-'
      requireMore .classUnclosed (return ⟨start, start⟩)
      return some (union.push item)
    else return none
  let union ←
    if union.items.isEmpty ∧ (← current?) = some ']' then
      let item ← verbatim ']'
      requireMore .classUnclosed (spanFrom start)
      pure (union.push item)
    else pure union
  return (⟨outer, ← spanFrom start, negated, none⟩, union)

def setPrimitive : Reader Tree := do
  match ← current? with
  | some '\\' => escape
  | some character =>
    let span ← characterSpan
    advance
    return .literal ⟨span, character, false⟩
  | none => return .empty (← emptySpan)

def setItem : Tree → Reader SetTree
  | .literal value => return .literal value
  | .shorthand value => return .shorthand value
  | .property value => return .property value
  | item => fail .classEscapeInvalid item.span

def rangeEnd : Tree → Reader Literal
  | .literal value => return value
  | item => fail .classRangeLiteral item.span

/-- An item or a range. Before a closing bracket or another hyphen, a hyphen makes no range. -/
def setRange (unclosed : Span) : Reader SetTree := do
  let first ← setPrimitive
  skipBlanks
  requireMore .classUnclosed (return unclosed)
  let next := (← get).nextVisible?
  if (← current?) ≠ some '-' ∨ next = some ']' ∨ next = some '-' then setItem first
  else
    advanceVisible
    requireMore .classUnclosed (return unclosed)
    let second ← setPrimitive
    let span : Span := ⟨first.span.start, second.span.stop⟩
    let low ← rangeEnd first
    let high ← rangeEnd second
    if low.character ≤ high.character then return .range span low high
    else fail .classRangeInvalid span

def setOperation? (first second : Option Char) : Option SetOperation :=
  match first, second with
  | some '&', some '&' => some .intersection
  | some '-', some '-' => some .difference
  | some '~', some '~' => some .symmetricDifference
  | _, _ => none

def closeSet (current : OpenSet) (union : SetUnion) (outer : List OpenSet) :
    Reader SetProgress := do
  let content := current.close union.tree
  advance
  let span ← spanFrom current.span.start
  match outer with
  | [] => return .done (.bracketed span current.negated content)
  | next :: outer =>
    return .reading next (current.outer.push (.bracketed span current.negated content)) outer

def setStep : SetProgress → Reader (Option SetProgress)
  | .done _ => return none
  | .reading current union outer => do
    skipBlanks
    requireMore .classUnclosed (return current.span)
    match ← current? with
    | some '[' =>
      match ← asciiClass? with
      | some item => return some (.reading current (union.push item) outer)
      | none =>
        let (inner, content) ← openSet union
        return some (.reading inner content (current :: outer))
    | some ']' => return some (← closeSet current union outer)
    | character =>
      match setOperation? character (← next?) with
      | some kind =>
        advance
        advance
        let left := current.close union.tree
        return some (.reading { current with left := some (kind, left) } ⟨← emptySpan, []⟩ outer)
      | none => return some (.reading current (union.push (← setRange current.span)) outer)

def brackets : Reader Tree := do
  let (current, content) ← openSet ⟨← emptySpan, []⟩
  match ← loop (.reading current content []) setStep with
  | .done set => return set
  | .reading current _ _ => fail .classUnclosed current.span

end Throughput.Pattern.Reader
