import Throughput.Pattern.Meaning
import Throughput.Pattern.Nesting
import Throughput.Pattern.Reading

/-! Patterns that describe texts: reading them, and searching for what they describe. -/

namespace Throughput

structure Pattern where
  expr : Pattern.Expr
deriving DecidableEq

namespace Pattern

inductive Error
  | malformed (fault : Fault)
  | tooLarge
deriving DecidableEq

def sizeLimit : Nat := 10485760

def Error.message (pattern : String) : Error → String
  | .malformed fault => fault.report pattern
  | .tooLarge => s!"Compiled regex exceeds size limit of {sizeLimit} bytes."

def tree (text : String) : Except Fault Tree := do
  let tree ← Tree.ofText text
  tree.checkNesting 0
  return tree

def meaning (text : String) : Except Fault Expr := do
  let (expr, _) ← (← tree text).meaning .standard
  return expr

def ofText (text : String) : Except Error Pattern :=
  match meaning text with
  | .error fault => .error (.malformed fault)
  | .ok expr => if expr.size > sizeLimit then .error .tooLarge else .ok ⟨expr⟩

def occursIn (pattern : Pattern) (text : String) : Bool := pattern.expr.occursIn text

end Pattern

end Throughput
