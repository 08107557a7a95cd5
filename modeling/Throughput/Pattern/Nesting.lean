import Throughput.Pattern.Tree

/-! How deep the parts of a pattern are nested. A part that holds other parts, or a set that holds
several items, is one level deeper than what it stands in. -/

namespace Throughput.Pattern

def nestingLimit : Nat := 250

def deeper (depth : Nat) (span : Span) : Except Fault Nat :=
  if depth < nestingLimit then .ok (depth + 1)
  else .error (.ofSpan (.nestingTooDeep nestingLimit) span)

mutual

def SetTree.checkNesting (depth : Nat) : SetTree → Except Fault Unit
  | .bracketed span _ content => do content.checkNesting (← deeper depth span)
  | .union span items => do SetTree.checkAllNesting (← deeper depth span) items
  | .operation span _ left right => do
    let depth ← deeper depth span
    left.checkNesting depth
    right.checkNesting depth
  | _ => .ok ()

def SetTree.checkAllNesting (depth : Nat) : List SetTree → Except Fault Unit
  | [] => .ok ()
  | item :: items => do
    item.checkNesting depth
    SetTree.checkAllNesting depth items

end

mutual

def Tree.checkNesting (depth : Nat) : Tree → Except Fault Unit
  | .bracketed span _ content => do content.checkNesting (← deeper depth span)
  | .repetition span _ _ body => do body.checkNesting (← deeper depth span)
  | .group span _ _ body => do body.checkNesting (← deeper depth span)
  | .alternation span branches => do Tree.checkAllNesting (← deeper depth span) branches
  | .concatenation span items => do Tree.checkAllNesting (← deeper depth span) items
  | _ => .ok ()

def Tree.checkAllNesting (depth : Nat) : List Tree → Except Fault Unit
  | [] => .ok ()
  | item :: items => do
    item.checkNesting depth
    Tree.checkAllNesting depth items

end

end Throughput.Pattern
