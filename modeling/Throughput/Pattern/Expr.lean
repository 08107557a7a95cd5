import Throughput.Unicode.Property

/-! What a pattern means: expressions that match from one place of a text to another.

The places that an expression can lead to are computed for all starting places at once, so that no
text and no expression takes more than a few passes. -/

namespace Throughput.Pattern

inductive Look
  | textStart
  | textEnd
  | lineStart
  | lineEnd
  /-- Lines end at line feeds, carriage returns, and both together. -/
  | crlfLineStart
  | crlfLineEnd
  | wordBoundary (words : CharSet)
  | notWordBoundary (words : CharSet)
  | wordStart (words : CharSet)
  | wordEnd (words : CharSet)
  | wordStartHalf (words : CharSet)
  | wordEndHalf (words : CharSet)
deriving DecidableEq

def Look.holds (look : Look) (before after : Option Char) : Bool :=
  match look with
  | .textStart => before.isNone
  | .textEnd => after.isNone
  | .lineStart => before.all (· = '\n')
  | .lineEnd => after.all (· = '\n')
  | .crlfLineStart =>
    before.all fun character => character = '\n' || (character = '\r' && after ≠ some '\n')
  | .crlfLineEnd =>
    after.all fun character => character = '\r' || (character = '\n' && before ≠ some '\r')
  | .wordBoundary words => before.any words.contains != after.any words.contains
  | .notWordBoundary words => before.any words.contains == after.any words.contains
  | .wordStart words => !before.any words.contains && after.any words.contains
  | .wordEnd words => before.any words.contains && !after.any words.contains
  | .wordStartHalf words => !before.any words.contains
  | .wordEndHalf words => !after.any words.contains

inductive Expr
  | nothing
  | look (condition : Look)
  | one (members : CharSet)
  | sequence (first second : Expr)
  | either (first second : Expr)
  | repeated (least : Nat) (most : Option Nat) (body : Expr)
  /-- What is matched is remembered, which makes a matcher larger. -/
  | captured (body : Expr)
deriving DecidableEq

/-- Which places of a text have been reached: one answer for each character, and one for the end. -/
abbrev Places := List Bool

namespace Places

def union (left right : Places) : Places := left.zipWith (· || ·) right

def iterate (step : Places → Places) : Nat → Places → Places
  | 0, places => places
  | count + 1, places => iterate step count (step places)

def closure (step : Places → Places) (count : Nat) (places : Places) : Places :=
  iterate (fun places => places.union (step places)) count places

end Places

namespace Expr

def neighbours (text : List Char) : List (Option Char × Option Char) :=
  (none :: text.map some).zip (text.map some ++ [none])

/-- The places that an expression leads to from some places of a text. A text of `n` characters has
`n + 1` places, and after as many rounds a repetition that can still go on stays where it is. -/
def follow (text : List Char) : Expr → Places → Places
  | .nothing, places => places
  | .look condition, places =>
    places.zipWith (fun reached (before, after) => reached && condition.holds before after)
      (neighbours text)
  | .one members, places =>
    false :: places.zipWith (fun reached character => reached && members.contains character) text
  | .sequence first second, places => second.follow text (first.follow text places)
  | .either first second, places => (first.follow text places).union (second.follow text places)
  | .repeated least most body, places =>
    let rounds := text.length + 1
    let started := Places.iterate (body.follow text) (min least rounds) places
    let further := match most with
      | some most => min (most - least) rounds
      | none => rounds
    Places.closure (body.follow text) further started
  | .captured body, places => body.follow text places

def occursIn (expr : Expr) (text : String) : Bool :=
  let text := text.toList
  (expr.follow text (List.replicate (text.length + 1) true)).any id

def stateSize : Nat := 32

/-- Bytes of the states for one range of a set: the encodings of its characters share most of
their states with those of other ranges. -/
def rangeSize : Nat := 60

def setSize (members : CharSet) : Nat :=
  if members.isAscii then
    if members.rangeCount = 1 then stateSize else 2 * stateSize + 8 * members.rangeCount
  else 2 * stateSize + rangeSize * members.rangeCount

def size : Expr → Nat
  | .nothing => 0
  | .look _ => stateSize
  | .one members => setSize members
  | .sequence first second => first.size + second.size
  | .either first second => first.size + second.size + 2 * stateSize
  | .repeated least most body =>
    match most with
    | some most => most * body.size + (most - least) * stateSize
    | none => max 1 least * body.size + stateSize
  | .captured body => body.size + 2 * stateSize

end Expr

end Throughput.Pattern
