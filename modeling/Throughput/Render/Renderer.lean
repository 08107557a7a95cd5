import Throughput.Chart.Spec
import Throughput.FileTree.Access
import Throughput.Log

/-! Renderers: they draw a series into an image file and present the file. -/

namespace Throughput

inductive RenderError
  | io (cause : SystemError)
  | plot (message : String)
  | unavailable (reason : String)
deriving DecidableEq

namespace RenderError

def message : RenderError → String
  | .io cause => "I/O error: " ++ cause.message
  | .plot message => "Plotting error: " ++ message
  | .unavailable reason => "Backend unavailable: " ++ reason

def causes : RenderError → List String
  | .io cause => [cause.message]
  | _ => []

end RenderError

structure Outcome where
  result : Except RenderError Unit
  tree : FileTree
  records : List LogRecord

structure Renderer where
  name : String
  render : List Binary64 → List Binary64 → ChartSpec → Path → FileTree → Outcome
  present : Path → FileTree → Outcome

end Throughput
