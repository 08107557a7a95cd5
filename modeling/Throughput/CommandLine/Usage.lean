import Throughput.Chart.Size
import Throughput.Text.ControlSequence

/-! The ways in which a command line ends without a command to run.

What was given is highlighted in a message. The messages here are for readers that are no terminal:
all control sequences are left out, those of the highlighting and those of what was given. -/

namespace Throughput

inductive UsageError
  | help
  | version
  | nothingGiven
  | missingCommand
  | missingArgument (labels : List String)
  | unknownArgument (text : String)
  | unknownCommand (text : String)
  | missingValue (label : String)
  | invalidChoice (label value : String)
  | invalidSize (label value : String) (cause : SizeError)
  | notText
  | repeated (label : String)
  | unneededValue (label value : String)
deriving DecidableEq

namespace UsageError

def description : String := "Render throughput logs (per-second byte rates) as MB/s line charts"

def versionText : String := "ratechart 0.1.0"

def overview : String :=
  description ++ "\n\n"
    ++ "Usage: ratechart [OPTIONS] <COMMAND>\n\n"
    ++ "Commands:\n"
    ++ "  plot   Render one rate log as a MB/s line chart\n"
    ++ "  batch  Render every chart listed in a TOML config file\n"
    ++ "  info   Display summary statistics about a rate log\n"
    ++ "  help   Print this message or the help of the given subcommand(s)\n\n"
    ++ "Options:\n"
    ++ "  -v, --verbose...  Verbosity level (-v for info, -vv for debug)\n"
    ++ "  -h, --help        Print help\n"
    ++ "  -V, --version     Print version"

def highlightEnd : String := "\x1b[0m"

def given (text : String) : String := "'" ++ text ++ highlightEnd ++ "'"

def highlighted : UsageError → String
  | .help => overview
  | .version => versionText
  | .nothingGiven => overview
  | .missingCommand => "error: 'ratechart' requires a subcommand but one was not provided"
  | .missingArgument labels =>
    "error: the following required arguments were not provided:"
      ++ String.join (labels.map ("\n  " ++ ·))
  | .unknownArgument text => "error: unexpected argument " ++ given text ++ " found"
  | .unknownCommand text => "error: unrecognized subcommand " ++ given text
  | .missingValue label => "error: a value is required for '" ++ label ++ "' but none was supplied"
  | .invalidChoice label value =>
    if value.isEmpty then "error: a value is required for '" ++ label ++ "' but none was supplied"
    else "error: invalid value " ++ given value ++ " for '" ++ label ++ "'"
  | .invalidSize label value cause =>
    "error: invalid value " ++ given value ++ " for '" ++ label ++ "': " ++ cause.message
  | .notText => "error: invalid UTF-8 was detected in one or more arguments"
  | .repeated label => "error: the argument '" ++ label ++ "' cannot be used multiple times"
  | .unneededValue label value =>
    "error: unexpected value " ++ given value ++ " for '" ++ label
      ++ "' found; no more were expected"

def message (error : UsageError) : String := ControlSequence.removed error.highlighted

def isAnswer : UsageError → Bool
  | .help | .version => true
  | _ => false

def exitStatus (error : UsageError) : Nat := if error.isAnswer then 0 else 2

end UsageError

end Throughput
