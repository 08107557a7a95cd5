import Throughput.Chart.Spec
import Throughput.FileTree.Access
import Throughput.Log

/-! Computations that work on a file tree and leave a journal of what they did. -/

namespace Throughput

inductive Step
  | load (input : Path)
  | ensureDirectory (directory : Path)
  | render (x y : List Binary64) (chart : ChartSpec) (output : Path)
  | present (output : Path)
deriving DecidableEq

inductive Event
  | record (record : LogRecord)
  | output (text : String)
  | step (step : Step)
deriving DecidableEq

structure Machine where
  tree : FileTree
  journal : List Event
deriving DecidableEq

/-- A computation may fail; what it did before stays done. -/
abbrev Run (ε α : Type) := ExceptT ε (StateM Machine) α

namespace Machine

def ofTree (tree : FileTree) : Machine := ⟨tree, []⟩

def records (machine : Machine) : List LogRecord :=
  machine.journal.filterMap fun
    | .record record => some record
    | _ => none

def output (machine : Machine) : String :=
  String.join (machine.journal.filterMap fun
    | .output text => some text
    | _ => none)

def steps (machine : Machine) : List Step :=
  machine.journal.filterMap fun
    | .step step => some step
    | _ => none

end Machine

namespace Run

variable {ε δ α : Type}

def on (computation : Run ε α) (machine : Machine) : Except ε α × Machine := computation machine

def note (event : Event) : Run ε Unit :=
  modify fun machine => { machine with journal := machine.journal ++ [event] }

def log (level : LogLevel) (source : LogSource) (message : String) : Run ε Unit :=
  note (.record ⟨level, source, message⟩)

def write (text : String) : Run ε Unit := note (.output text)

def writeLine (text : String) : Run ε Unit := write (text ++ "\n")

def step (step : Step) : Run ε Unit := note (.step step)

def tree : Run ε FileTree := do return (← get).tree

def setTree (tree : FileTree) : Run ε Unit := modify fun machine => { machine with tree }

def lift (context : δ → ε) (result : Except δ α) : Run ε α :=
  match result with
  | .ok value => pure value
  | .error error => throw (context error)

def within (context : δ → ε) (computation : Run δ α) : Run ε α := fun machine =>
  match computation machine with
  | (.ok value, after) => (.ok value, after)
  | (.error error, after) => (.error (context error), after)

def attempt (computation : Run δ α) : Run ε (Except δ α) := fun machine =>
  match computation machine with
  | (result, after) => (.ok result, after)

end Run

end Throughput
