/-! Sets of characters, each given by the code points at which membership changes.

Two sets are combined in one pass over their changes. -/

namespace Throughput

/-- The changes are in ascending order; in front of the first one nothing is in the set. -/
structure CharSet where
  changes : List Nat
deriving DecidableEq

namespace CharSet

def isInside (code : Nat) : List Nat → Bool
  | [] => false
  | change :: rest => change ≤ code && !isInside code rest

def containsCode (set : CharSet) (code : Nat) : Bool := isInside code set.changes

def contains (set : CharSet) (character : Char) : Bool := set.containsCode character.toNat

def empty : CharSet := ⟨[]⟩

def all : CharSet := ⟨[0]⟩

def range (low high : Nat) : CharSet := ⟨[low, high + 1]⟩

def singleton (character : Char) : CharSet := range character.toNat character.toNat

def complement (set : CharSet) : CharSet :=
  match set.changes with
  | 0 :: rest => ⟨rest⟩
  | changes => ⟨0 :: changes⟩

def addChange (before after : Bool) (change : Nat) (rest : List Nat) : List Nat :=
  if before = after then rest else change :: rest

/-- The changes of a combination of two sets; `inLeft` and `inRight` tell what the changes so far
have come to. -/
def combineChanges (rule : Bool → Bool → Bool) (inLeft inRight : Bool) :
    List Nat → List Nat → List Nat
  | [], rights => if rule inLeft true = rule inLeft false then [] else rights
  | lefts, [] => if rule true inRight = rule false inRight then [] else lefts
  | left :: lefts, right :: rights =>
    if left < right then
      addChange (rule inLeft inRight) (rule (!inLeft) inRight) left
        (combineChanges rule (!inLeft) inRight lefts (right :: rights))
    else if right < left then
      addChange (rule inLeft inRight) (rule inLeft (!inRight)) right
        (combineChanges rule inLeft (!inRight) (left :: lefts) rights)
    else
      addChange (rule inLeft inRight) (rule (!inLeft) (!inRight)) left
        (combineChanges rule (!inLeft) (!inRight) lefts rights)
  termination_by lefts rights => lefts.length + rights.length

/-- The characters for which a rule holds; it must not hold where both sets have no member. -/
def combine (rule : Bool → Bool → Bool) (left right : CharSet) : CharSet :=
  ⟨combineChanges rule false false left.changes right.changes⟩

def union (left right : CharSet) : CharSet := combine (· || ·) left right

def intersection (left right : CharSet) : CharSet := combine (· && ·) left right

def difference (left right : CharSet) : CharSet := combine (fun l r => l && !r) left right

def symmetricDifference (left right : CharSet) : CharSet := combine (fun l r => l != r) left right

def ofRanges (ranges : List (Nat × Nat)) : CharSet :=
  ranges.foldl (fun set (low, high) => set.union (range low high)) empty

/-- What has been read of written runs: the digits of a length, the code point that the lengths
before it lead up to, and the changes so far, last one first. -/
structure RunReading where
  digits : Nat
  position : Nat
  changes : List Nat

def RunReading.take (reading : RunReading) (digit : Char) : RunReading :=
  if digit.isUpper then
    let position := reading.position + reading.digits * 26 + (digit.toNat - 'A'.toNat)
    ⟨0, position, position :: reading.changes⟩
  else { reading with digits := reading.digits * 26 + (digit.toNat - 'a'.toNat) }

/-- The set of written runs: lengths, alternately outside and inside of the set. -/
def ofRuns (lines : List String) : CharSet :=
  let reading := lines.foldl (fun reading line => line.toList.foldl RunReading.take reading)
    ⟨0, 0, []⟩
  ⟨reading.changes.reverse⟩

def isAscii (set : CharSet) : Bool :=
  set.changes.length % 2 = 0 && set.changes.all (· ≤ 0x80)

def rangeCount (set : CharSet) : Nat := (set.changes.length + 1) / 2

end CharSet

end Throughput
