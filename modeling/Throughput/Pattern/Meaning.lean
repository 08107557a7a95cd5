import Throughput.Pattern.Expr
import Throughput.Pattern.Tree
import Throughput.Unicode.Folding
import Throughput.Unicode.Query

/-! From the tree of a pattern to its meaning, under the flags that are in force.

A flag that is set in the middle of a group is in force up to the end of the group. Without the
flag for Unicode, sets hold bytes; as every match has to be text, they must be ASCII sets then. -/

namespace Throughput.Pattern

structure Options where
  caseless : Bool
  multiline : Bool
  dotAll : Bool
  unicode : Bool
  crlf : Bool
deriving DecidableEq

namespace Options

def standard : Options := ⟨false, false, false, true, false⟩

def after (options : Options) (changes : FlagChanges) : Options where
  caseless := (changes.state? .caseless).getD options.caseless
  multiline := (changes.state? .multiline).getD options.multiline
  dotAll := (changes.state? .dotAll).getD options.dotAll
  unicode := (changes.state? .unicode).getD options.unicode
  crlf := (changes.state? .crlf).getD options.crlf

def ascii : CharSet := .range 0 0x7F

def folded (options : Options) (set : CharSet) : CharSet :=
  if !options.caseless then set
  else if options.unicode then Unicode.withCases set
  else set.union ((Unicode.withCases (set.intersection ascii)).intersection ascii)

def checked (options : Options) (span : Span) (set : CharSet) : Except Fault CharSet :=
  if options.unicode || set.isAscii then .ok set else .error (.ofSpan .invalidEncoding span)

/-- A set as its brackets say; case is folded before the set is negated. -/
def enclosed (options : Options) (span : Span) (negated : Bool) (set : CharSet) :
    Except Fault CharSet :=
  let set := options.folded set
  options.checked span (if negated then set.complement else set)

def character (options : Options) (value : Literal) : Except Fault Char :=
  if !options.unicode && value.isByte && value.character.toNat ≥ 0x80 then
    .error (.ofSpan .invalidEncoding value.span)
  else .ok value.character

/-- A character in a set of bytes has to be an ASCII character. -/
def member (options : Options) (value : Literal) : Except Fault Char := do
  let character ← options.character value
  if !options.unicode && character.toNat ≥ 0x80 then
    .error (.ofSpan .unicodeNotAllowed value.span)
  else .ok character

end Options

namespace Shorthand

def asciiSet : Shorthand → CharSet
  | .digit => .range 0x30 0x39
  | .space => .ofRanges [(0x09, 0x0D), (0x20, 0x20)]
  | .word => .ofRanges [(0x30, 0x39), (0x41, 0x5A), (0x5F, 0x5F), (0x61, 0x7A)]

def unicodeSet : Shorthand → CharSet
  | .digit => Unicode.digits
  | .space => Unicode.blanks
  | .word => Unicode.wordCharacters

end Shorthand

def AsciiKind.set : AsciiKind → CharSet
  | .alnum => .ofRanges [(0x30, 0x39), (0x41, 0x5A), (0x61, 0x7A)]
  | .alpha => .ofRanges [(0x41, 0x5A), (0x61, 0x7A)]
  | .ascii => .range 0 0x7F
  | .blank => .ofRanges [(0x09, 0x09), (0x20, 0x20)]
  | .cntrl => .ofRanges [(0, 0x1F), (0x7F, 0x7F)]
  | .digit => .range 0x30 0x39
  | .graph => .range 0x21 0x7E
  | .lower => .range 0x61 0x7A
  | .print => .range 0x20 0x7E
  | .punct => .ofRanges [(0x21, 0x2F), (0x3A, 0x40), (0x5B, 0x60), (0x7B, 0x7E)]
  | .space => .ofRanges [(0x09, 0x0D), (0x20, 0x20)]
  | .upper => .range 0x41 0x5A
  | .word => .ofRanges [(0x30, 0x39), (0x41, 0x5A), (0x5F, 0x5F), (0x61, 0x7A)]
  | .xdigit => .ofRanges [(0x30, 0x39), (0x41, 0x46), (0x61, 0x66)]

def SetOperation.apply : SetOperation → CharSet → CharSet → CharSet
  | .intersection => CharSet.intersection
  | .difference => CharSet.difference
  | .symmetricDifference => CharSet.symmetricDifference

namespace Options

def wordSet (options : Options) : CharSet :=
  if options.unicode then Shorthand.word.unicodeSet else Shorthand.word.asciiSet

def shorthand (options : Options) (value : ShorthandClass) : Except Fault CharSet :=
  let set := if options.unicode then value.kind.unicodeSet else value.kind.asciiSet
  options.checked value.span (if value.negated then set.complement else set)

def queryFault : Unicode.QueryError → FaultKind
  | .propertyNotFound => .propertyNotFound
  | .valueNotFound => .propertyValueNotFound

def property (options : Options) (value : PropertyClass) : Except Fault CharSet :=
  if !options.unicode then .error (.ofSpan .unicodeNotAllowed value.span)
  else
    let found := match value.query with
      | .named name => Unicode.named name
      | .valued name text => Unicode.valued name text
    match found with
    | .ok set => options.enclosed value.span value.negated set
    | .error error => .error (.ofSpan (queryFault error) value.span)

def dot (options : Options) (span : Span) : Except Fault CharSet :=
  if !options.unicode then .error (.ofSpan .invalidEncoding span)
  else if options.dotAll then .ok .all
  else if options.crlf then .ok (CharSet.ofRanges [(0x0A, 0x0A), (0x0D, 0x0D)]).complement
  else .ok (CharSet.singleton '\n').complement

def look (options : Options) : AssertionKind → Look
  | .lineStart =>
    if !options.multiline then .textStart else if options.crlf then .crlfLineStart else .lineStart
  | .lineEnd =>
    if !options.multiline then .textEnd else if options.crlf then .crlfLineEnd else .lineEnd
  | .textStart => .textStart
  | .textEnd => .textEnd
  | .wordBoundary => .wordBoundary options.wordSet
  | .notWordBoundary => .notWordBoundary options.wordSet
  | .wordStart => .wordStart options.wordSet
  | .wordEnd => .wordEnd options.wordSet
  | .wordStartHalf => .wordStartHalf options.wordSet
  | .wordEndHalf => .wordEndHalf options.wordSet

end Options

mutual

def SetTree.meaning (options : Options) : SetTree → Except Fault CharSet
  | .empty _ => .ok .empty
  | .literal value => return .singleton (← options.member value)
  | .range _ low high => do
    let low ← options.member low
    let high ← options.member high
    return .range low.toNat high.toNat
  | .ascii span kind negated => options.enclosed span negated kind.set
  | .property value => options.property value
  | .shorthand value => options.shorthand value
  | .bracketed span negated content => do
    options.enclosed span negated (← content.meaning options)
  | .union _ items => SetTree.meaningOfAll options items
  | .operation _ kind left right => do
    let left ← left.meaning options
    let right ← right.meaning options
    return kind.apply (options.folded left) (options.folded right)

def SetTree.meaningOfAll (options : Options) : List SetTree → Except Fault CharSet
  | [] => .ok .empty
  | item :: items => do
    let set ← item.meaning options
    return set.union (← SetTree.meaningOfAll options items)

end

mutual

def Tree.meaning (options : Options) : Tree → Except Fault (Expr × Options)
  | .empty _ => .ok (.nothing, options)
  | .flags _ changes => .ok (.nothing, options.after changes)
  | .literal value => do
    return (.one (options.folded (.singleton (← options.character value))), options)
  | .dot span => return (.one (← options.dot span), options)
  | .assertion _ kind => .ok (.look (options.look kind), options)
  | .property value => return (.one (← options.property value), options)
  | .shorthand value => return (.one (← options.shorthand value), options)
  | .bracketed span negated content => do
    return (.one (← options.enclosed span negated (← content.meaning options)), options)
  | .repetition _ least most body => do
    let (body, options) ← body.meaning options
    return (.repeated least most body, options)
  | .group _ changes captures body => do
    let (body, _) ← body.meaning (options.after changes)
    return (if captures then .captured body else body, options)
  | .alternation _ branches => Tree.meaningOfBranches options branches
  | .concatenation _ items => Tree.meaningOfItems options items

def Tree.meaningOfItems (options : Options) : List Tree → Except Fault (Expr × Options)
  | [] => .ok (.nothing, options)
  | item :: items => do
    let (first, options) ← item.meaning options
    let (rest, options) ← Tree.meaningOfItems options items
    return (.sequence first rest, options)

def Tree.meaningOfBranches (options : Options) : List Tree → Except Fault (Expr × Options)
  | [] => .ok (.nothing, options)
  | [branch] => branch.meaning options
  | branch :: branches => do
    let (first, options) ← branch.meaning options
    let (rest, options) ← Tree.meaningOfBranches options branches
    return (.either first rest, options)

end

end Throughput.Pattern
