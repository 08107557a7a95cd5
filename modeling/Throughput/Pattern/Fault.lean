/-! What can be wrong with the text of a pattern, and the report about it.

A fault blames a span of the text, sometimes together with an earlier one. The report shows the
text with carets under what is blamed. -/

namespace Throughput.Pattern

structure Position where
  line : Nat
  column : Nat
deriving DecidableEq

namespace Position

def origin : Position := ⟨1, 1⟩

def after (position : Position) (character : Char) : Position :=
  if character = '\n' then ⟨position.line + 1, 1⟩ else ⟨position.line, position.column + 1⟩

def isUpTo (position other : Position) : Bool :=
  position.line < other.line || (position.line = other.line && position.column ≤ other.column)

end Position

structure Span where
  start : Position
  stop : Position
deriving DecidableEq

namespace Span

def isOnOneLine (span : Span) : Bool := span.start.line = span.stop.line

def isUpTo (span other : Span) : Bool :=
  if span.start = other.start then span.stop.isUpTo other.stop else span.start.isUpTo other.start

end Span

inductive FaultKind
  | classEscapeInvalid
  | classRangeInvalid
  | classRangeLiteral
  | classUnclosed
  | decimalInvalid
  | escapeHexEmpty
  | escapeHexInvalid
  | escapeHexInvalidDigit
  | escapeUnexpectedEnd
  | escapeUnrecognized
  | flagDanglingNegation
  | flagDuplicate
  | flagRepeatedNegation
  | flagUnexpectedEnd
  | flagUnrecognized
  | groupNameDuplicate
  | groupNameEmpty
  | groupNameInvalid
  | groupNameUnclosed
  | groupUnclosed
  | groupUnopened
  | nestingTooDeep (limit : Nat)
  | repetitionCountInvalid
  | repetitionCountEmpty
  | repetitionCountUnclosed
  | repetitionMissing
  | wordBoundaryUnclosed
  | wordBoundaryUnrecognized
  | wordBoundaryOrRepetitionUnclosed
  | unicodeClassInvalid
  | backreference
  | lookAround
  | unicodeNotAllowed
  | invalidEncoding
  | propertyNotFound
  | propertyValueNotFound
deriving DecidableEq

def FaultKind.message : FaultKind → String
  | .classEscapeInvalid => "invalid escape sequence found in character class"
  | .classRangeInvalid => "invalid character class range, the start must be <= the end"
  | .classRangeLiteral => "invalid range boundary, must be a literal"
  | .classUnclosed => "unclosed character class"
  | .decimalInvalid => "decimal literal invalid"
  | .escapeHexEmpty => "hexadecimal literal empty"
  | .escapeHexInvalid => "hexadecimal literal is not a Unicode scalar value"
  | .escapeHexInvalidDigit => "invalid hexadecimal digit"
  | .escapeUnexpectedEnd => "incomplete escape sequence, reached end of pattern prematurely"
  | .escapeUnrecognized => "unrecognized escape sequence"
  | .flagDanglingNegation => "dangling flag negation operator"
  | .flagDuplicate => "duplicate flag"
  | .flagRepeatedNegation => "flag negation operator repeated"
  | .flagUnexpectedEnd => "expected flag but got end of regex"
  | .flagUnrecognized => "unrecognized flag"
  | .groupNameDuplicate => "duplicate capture group name"
  | .groupNameEmpty => "empty capture group name"
  | .groupNameInvalid => "invalid capture group character"
  | .groupNameUnclosed => "unclosed capture group name"
  | .groupUnclosed => "unclosed group"
  | .groupUnopened => "unopened group"
  | .nestingTooDeep limit =>
    s!"exceed the maximum number of nested parentheses/brackets ({limit})"
  | .repetitionCountInvalid =>
    "invalid repetition count range, the start must be <= the end"
  | .repetitionCountEmpty => "repetition quantifier expects a valid decimal"
  | .repetitionCountUnclosed => "unclosed counted repetition"
  | .repetitionMissing => "repetition operator missing expression"
  | .wordBoundaryUnclosed =>
    "special word boundary assertion is either unclosed or contains an invalid character"
  | .wordBoundaryUnrecognized =>
    "unrecognized special word boundary assertion, valid choices are: start, end, start-half "
      ++ "or end-half"
  | .wordBoundaryOrRepetitionUnclosed =>
    "found either the beginning of a special word boundary or a bounded repetition on a \\b with "
      ++ "an opening brace, but no closing brace"
  | .unicodeClassInvalid => "invalid Unicode character class"
  | .backreference => "backreferences are not supported"
  | .lookAround => "look-around, including look-ahead and look-behind, is not supported"
  | .unicodeNotAllowed => "Unicode not allowed here"
  | .invalidEncoding => "pattern can match invalid UTF-8"
  | .propertyNotFound => "Unicode property not found"
  | .propertyValueNotFound => "Unicode property value not found"

structure Fault where
  kind : FaultKind
  span : Span
  /-- What stood first, where something stands twice. -/
  earlier : Option Span
deriving DecidableEq

namespace Fault

def ofSpan (kind : FaultKind) (span : Span) : Fault := ⟨kind, span, none⟩

def spans (fault : Fault) : List Span :=
  match fault.earlier with
  | none => [fault.span]
  | some earlier =>
    if fault.span.isUpTo earlier then [fault.span, earlier] else [earlier, fault.span]

def linesOf (text : String) : List String :=
  let pieces := text.splitOn "\n"
  let ended := pieces.dropLast.map fun line =>
    if line.endsWith "\r" then String.ofList line.toList.dropLast else line
  match pieces.getLast? with
  | none | some "" => ended
  | some last => ended ++ [last]

def repeated (count : Nat) (character : Char) : String :=
  String.ofList (List.replicate count character)

def carets (spans : List Span) : String :=
  (spans.foldl (fun (text, width) span =>
    let gap := span.start.column - 1 - width
    let length := max 1 (span.stop.column - span.start.column)
    (text ++ repeated gap ' ' ++ repeated length '^', width + gap + length)) ("", 0)).1

def notedLine (label : String) (spans : List Span) (line : String) : String :=
  label ++ line ++ "\n"
    ++ if spans.isEmpty then "" else repeated label.length ' ' ++ carets spans ++ "\n"

def numberWidth (pattern : String) : Nat :=
  let count := (linesOf pattern).length + if pattern.endsWith "\n" then 1 else 0
  if count ≤ 1 then 0 else (toString count).length

def notedLines (fault : Fault) (pattern : String) : String :=
  let width := numberWidth pattern
  String.join <| (linesOf pattern).zipIdx.map fun (line, index) =>
    let number := toString (index + 1)
    let label := if width = 0 then "    "
      else repeated (width - number.length) ' ' ++ number ++ ": "
    notedLine label (fault.spans.filter fun span =>
      span.isOnOneLine && span.start.line = index + 1) line

def spanNote (span : Span) : String :=
  s!"on line {span.start.line} (column {span.start.column}) through line {span.stop.line} "
    ++ s!"(column {span.stop.column - 1})\n"

/-- The report about a fault in a pattern; rules frame a pattern of several lines. -/
def report (fault : Fault) (pattern : String) : String :=
  let noted := fault.notedLines pattern
  let body :=
    if pattern.contains '\n' then
      let rule := repeated 79 '~' ++ "\n"
      rule ++ noted ++ rule
        ++ String.join ((fault.spans.filter fun span => !span.isOnOneLine).map spanNote)
    else noted
  "regex parse error:\n" ++ body ++ "error: " ++ fault.kind.message

end Fault

end Throughput.Pattern
