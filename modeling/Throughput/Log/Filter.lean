import Throughput.Log
import Throughput.Pattern
import Throughput.Text.Blank
import Throughput.Text.ControlSequence

/-! Which log records are shown, and how.

A filter is a list of directives separated by commas: a level, a source, or a source and a level
with an equals sign between them. The directive with the longest matching source decides. A pattern
after a slash has to occur in the message; one that cannot be read is ignored. -/

namespace Throughput

/-- Lets records through up to a level; a source matches all addresses that start with it. -/
structure LogDirective where
  source : Option String
  rank : Nat
deriving DecidableEq

structure LogFilter where
  directives : List LogDirective
  contained : Option Pattern
deriving DecidableEq

namespace LogFilter

def rankOf? (name : String) : Option Nat :=
  match name.toUpper with
  | "OFF" => some 0
  | "ERROR" => some LogLevel.error.rank
  | "WARN" => some LogLevel.warn.rank
  | "INFO" => some LogLevel.info.rank
  | "DEBUG" => some LogLevel.debug.rank
  | "TRACE" => some LogLevel.trace.rank
  | _ => none

def trimmed (text : String) : String := String.ofList (trimBlanks text.toList)

def directive? (text : String) : Except String LogDirective :=
  match text.splitOn "=" with
  | [part] =>
    match rankOf? part with
    | some rank => .ok ⟨none, rank⟩
    | none => .ok ⟨some part, LogLevel.trace.rank⟩
  | [source, level] =>
    let level := trimmed level
    if level.isEmpty then .ok ⟨some source, LogLevel.trace.rank⟩
    else
      match rankOf? level with
      | some rank => .ok ⟨some source, rank⟩
      | none => .error level
  | _ => .error text

def warning (problem : String) : String := "warning: " ++ problem ++ ", ignoring it"

def set (directive : LogDirective) (directives : List LogDirective) : List LogDirective :=
  if directives.any (·.source = directive.source) then
    directives.map fun held => if held.source = directive.source then directive else held
  else directives ++ [directive]

def take (state : List LogDirective × List String) (text : String) :
    List LogDirective × List String :=
  let (directives, warnings) := state
  let text := trimmed text
  if text.isEmpty then state
  else
    match directive? text with
    | .ok directive => (set directive directives, warnings)
    | .error part => (directives, warnings ++ [warning ("invalid logging spec '" ++ part ++ "'")])

def parse (text : String) : LogFilter × List String :=
  match text.splitOn "/" with
  | [directives] =>
    let (directives, warnings) := (directives.splitOn ",").foldl take ([], [])
    (⟨directives, none⟩, warnings)
  | [directives, contained] =>
    let (directives, warnings) := (directives.splitOn ",").foldl take ([], [])
    match Pattern.ofText contained with
    | .ok pattern => (⟨directives, some pattern⟩, warnings)
    | .error error =>
      let problem := "invalid regex filter - " ++ error.message contained
      (⟨directives, none⟩, warnings ++ [warning problem])
  | _ => (⟨[], none⟩, [warning ("invalid logging spec '" ++ text ++ "' (too many '/'s)")])

def sourceLength (directive : LogDirective) : Nat :=
  (directive.source.map String.utf8ByteSize).getD 0

/-- Of two directives with matching sources, the one with the longer source; the later one of two
equally long ones. -/
def closer (best : Option LogDirective) (directive : LogDirective) : Option LogDirective :=
  match best with
  | some best => if sourceLength best ≤ sourceLength directive then some directive else some best
  | none => some directive

def deciding? (filter : LogFilter) (address : String) : Option LogDirective :=
  (filter.directives.filter fun directive =>
    directive.source.all fun source => address.startsWith source).foldl closer none

/-- Without any directive only errors are shown. -/
def admits (filter : LogFilter) (record : LogRecord) : Bool :=
  let rank :=
    if filter.directives.isEmpty then LogLevel.error.rank
    else ((filter.deciding? record.source.address).map (·.rank)).getD 0
  record.level.rank ≤ rank
    && filter.contained.all fun pattern => pattern.occursIn record.message

def ofVerbosity (verbosity : Nat) : LogFilter :=
  let level := match verbosity with
    | 0 => LogLevel.warn
    | 1 => LogLevel.info
    | _ => LogLevel.debug
  ⟨[⟨none, level.rank⟩], none⟩

end LogFilter

namespace LogRecord

/-- Level and source in brackets, then the message with its later lines indented. Control
sequences are left out; one that is not ended can take the end of the line with it. -/
def text (record : LogRecord) : String :=
  let level := record.level.name
  let padding := String.ofList (List.replicate (5 - level.length) ' ')
  ControlSequence.removed <|
    "[" ++ level ++ padding ++ " " ++ record.source.address ++ "] "
      ++ "\n    ".intercalate (record.message.splitOn "\n") ++ "\n"

end LogRecord

end Throughput
