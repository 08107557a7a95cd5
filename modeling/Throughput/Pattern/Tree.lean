import Throughput.Pattern.Fault

/-! Patterns as they are written: trees that remember where each part stands. -/

namespace Throughput.Pattern

inductive Flag
  | caseless
  | multiline
  | dotAll
  | swapGreed
  | unicode
  | crlf
  | spaced
deriving DecidableEq

/-- Flags that are switched on or off, each at most once. -/
abbrev FlagChanges := List (Flag × Bool)

def FlagChanges.state? (changes : FlagChanges) (flag : Flag) : Option Bool :=
  (changes.find? fun change => change.1 = flag).map Prod.snd

structure Literal where
  span : Span
  character : Char
  /-- Written as two hexadecimal digits, which can stand for a byte. -/
  isByte : Bool
deriving DecidableEq

inductive AssertionKind
  | lineStart
  | lineEnd
  | textStart
  | textEnd
  | wordBoundary
  | notWordBoundary
  | wordStart
  | wordEnd
  | wordStartHalf
  | wordEndHalf
deriving DecidableEq

inductive Shorthand
  | digit
  | space
  | word
deriving DecidableEq

structure ShorthandClass where
  span : Span
  kind : Shorthand
  negated : Bool
deriving DecidableEq

inductive PropertyQuery
  | named (name : String)
  | valued (name value : String)
deriving DecidableEq

structure PropertyClass where
  span : Span
  query : PropertyQuery
  negated : Bool
deriving DecidableEq

inductive AsciiKind
  | alnum
  | alpha
  | ascii
  | blank
  | cntrl
  | digit
  | graph
  | lower
  | print
  | punct
  | space
  | upper
  | word
  | xdigit
deriving DecidableEq

inductive SetOperation
  | intersection
  | difference
  | symmetricDifference
deriving DecidableEq

inductive SetTree
  | empty (span : Span)
  | literal (value : Literal)
  | range (span : Span) (low high : Literal)
  | ascii (span : Span) (kind : AsciiKind) (negated : Bool)
  | property (value : PropertyClass)
  | shorthand (value : ShorthandClass)
  | bracketed (span : Span) (negated : Bool) (content : SetTree)
  | union (span : Span) (items : List SetTree)
  | operation (span : Span) (kind : SetOperation) (left right : SetTree)

def SetTree.span : SetTree → Span
  | .empty span | .range span _ _ | .ascii span _ _ | .bracketed span _ _ | .union span _
  | .operation span _ _ _ => span
  | .literal value => value.span
  | .property value => value.span
  | .shorthand value => value.span

inductive Tree
  | empty (span : Span)
  | flags (span : Span) (changes : FlagChanges)
  | literal (value : Literal)
  | dot (span : Span)
  | assertion (span : Span) (kind : AssertionKind)
  | property (value : PropertyClass)
  | shorthand (value : ShorthandClass)
  | bracketed (span : Span) (negated : Bool) (content : SetTree)
  | repetition (span : Span) (least : Nat) (most : Option Nat) (body : Tree)
  | group (span : Span) (changes : FlagChanges) (captures : Bool) (body : Tree)
  | alternation (span : Span) (branches : List Tree)
  | concatenation (span : Span) (items : List Tree)

namespace Tree

def span : Tree → Span
  | .empty span | .flags span _ | .dot span | .assertion span _ | .bracketed span _ _
  | .repetition span _ _ _ | .group span _ _ _ | .alternation span _ | .concatenation span _ => span
  | .literal value => value.span
  | .property value => value.span
  | .shorthand value => value.span

def ofItems (span : Span) : List Tree → Tree
  | [] => .empty span
  | [item] => item
  | items => .concatenation span items

def isRepeatable : Tree → Bool
  | .empty _ | .flags _ _ => false
  | _ => true

end Tree

end Throughput.Pattern
