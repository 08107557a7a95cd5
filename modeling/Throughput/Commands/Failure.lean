import Throughput.Batch.Decode
import Throughput.Pipeline

/-! Why a command fails, from the outermost cause inwards. -/

namespace Throughput

inductive TextError
  | system (cause : SystemError)
  | notText
deriving DecidableEq

def TextError.message : TextError → String
  | .system cause => cause.message
  | .notText => "stream did not contain valid UTF-8"

inductive CommandError
  | noChartName (input : Path)
  | backend (cause : RenderError)
  | chart (name : String) (cause : PipelineError)
  | batchChart (place total : Nat) (name : String) (cause : PipelineError)
  | unreadConfig (path : Path) (cause : TextError)
  | malformedConfig (cause : Config.ParseError)
  | missingDirectory (cause : MissingDirectory)
  | unknownBackend (message : String)
  | log (cause : PipelineError)

def Config.ParseError.detail : Config.ParseError → String
  | .notToml => "TOML parse error"
  | .misshapen cause => cause.message

namespace CommandError

def message : CommandError → String
  | .noChartName input => "Cannot derive a chart name from " ++ input.display
  | .backend _ => "Failed to initialize chart backend"
  | .chart name _ => "Chart '" ++ name ++ "' failed"
  | .batchChart place total name _ => s!"Chart {place} of {total} ('" ++ name ++ "') failed"
  | .unreadConfig path _ => "Failed to read config file: " ++ path.display
  | .malformedConfig _ => "Failed to parse TOML configuration"
  | .missingDirectory cause => cause.message
  | .unknownBackend message => message
  | .log _ => "Failed to read rate log"

def causes : CommandError → List String
  | .backend cause => cause.message :: cause.causes
  | .chart _ cause | .batchChart _ _ _ cause | .log cause => cause.message :: cause.causes
  | .unreadConfig _ cause => [cause.message]
  | .malformedConfig cause => [cause.detail]
  | .noChartName _ | .missingDirectory _ | .unknownBackend _ => []

def chain (error : CommandError) : List String := error.message :: error.causes

def causeText (label indent text : String) : String :=
  "\n" ++ label ++ ("\n" ++ indent).intercalate (text.splitOn "\n")

def causesText : List String → String
  | [] => ""
  | [cause] => "\n\nCaused by:" ++ causeText "    " "    " cause
  | causes =>
    "\n\nCaused by:" ++ String.join (causes.zipIdx.map fun (cause, index) =>
      let number := toString index
      let padding := String.ofList (List.replicate (5 - number.length) ' ')
      causeText (padding ++ number ++ ": ") "       " cause)

def report (error : CommandError) : String :=
  "Error: " ++ error.message ++ causesText error.causes

end CommandError

end Throughput
