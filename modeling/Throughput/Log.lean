/-! Log records: what a component reports while it works. -/

namespace Throughput

inductive LogLevel
  | error
  | warn
  | info
  | debug
  | trace
deriving DecidableEq

namespace LogLevel

def name : LogLevel → String
  | .error => "ERROR"
  | .warn => "WARN"
  | .info => "INFO"
  | .debug => "DEBUG"
  | .trace => "TRACE"

/-- Severity rank; a filter at some level lets through every record of at most that rank. -/
def rank : LogLevel → Nat
  | .error => 1
  | .warn => 2
  | .info => 3
  | .debug => 4
  | .trace => 5

end LogLevel

inductive LogSource
  | loader
  | output
  | pipeline
  | layout
  | bitmap
  | viewer
  | plotCommand
  | batchCommand
deriving DecidableEq

namespace LogSource

def address : LogSource → String
  | .loader => "ratechart::loader"
  | .output => "ratechart::output"
  | .pipeline => "ratechart::pipeline"
  | .layout => "ratechart::render::layout"
  | .bitmap => "ratechart::render::bitmap"
  | .viewer => "ratechart::render::viewer"
  | .plotCommand => "ratechart::cli::plot"
  | .batchCommand => "ratechart::cli::batch"

end LogSource

structure LogRecord where
  level : LogLevel
  source : LogSource
  message : String
deriving DecidableEq

namespace LogRecord

def brief (record : LogRecord) : String :=
  record.level.name ++ " " ++ record.message

end LogRecord

end Throughput
