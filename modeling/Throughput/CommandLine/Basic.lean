import Throughput.CommandLine.Grammar
import Throughput.Path
import Throughput.Render.Backend

/-! The command line: a verbosity, and one of three commands with its options. -/

namespace Throughput

structure PlotOptions where
  input : Path
  outputDirectory : Path
  name : Option String
  title : Option String
  fileName : Option String
  size : Option ImageSize
  presents : Bool
  backend : Backend
deriving DecidableEq

inductive Command
  | plot (options : PlotOptions)
  | batch (config : Path) (backend : Option Backend)
  | info (file : Path)
deriving DecidableEq

structure CommandLine where
  verbosity : Nat
  command : Command
deriving DecidableEq

namespace CommandLine

/-! Values -/

def pathOf (label : String) (value : Argument) : Except UsageError Path :=
  if value.isEmpty then .error (.missingValue label) else .ok ⟨value⟩

def textOf (value : Argument) : Except UsageError String :=
  match Utf8.text? value with
  | some text => .ok text
  | none => .error .notText

def sizeOf (label : String) (value : Argument) : Except UsageError ImageSize := do
  let text ← textOf value
  (ImageSize.ofText text).mapError (.invalidSize label text)

def backendOf (label : String) (value : Argument) : Except UsageError Backend :=
  if value = Utf8.bytes Backend.bitmap.name then .ok .bitmap
  else if value = Utf8.bytes Backend.matplotlib.name then .ok .matplotlib
  else .error (.invalidChoice label (Utf8.lossy value))

/-! Parameters -/

def once {σ α : Type} (long : String) (short : Option Char) (label : String)
    (read : Argument → Except UsageError α) (get : σ → Option α) (set : σ → α → σ) :
    Parameter σ :=
  { long, short, label, takesValue := true
    accept := fun value settings =>
      if (get settings).isSome then .error (.repeated label)
      else (read value).map (set settings) }

def help {σ : Type} : Parameter σ :=
  { long := "help", short := some 'h', label := "--help", takesValue := false
    accept := fun _ _ => .error .help }

def version {σ : Type} : Parameter σ :=
  { long := "version", short := some 'V', label := "--version", takesValue := false
    accept := fun _ _ => .error .version }

def required {α : Type} (labels : List String) : Option α → Except UsageError α
  | some value => .ok value
  | none => .error (.missingArgument labels)

/-! The plot command -/

structure PlotSettings where
  input : Option Path := none
  outputDirectory : Option Path := none
  name : Option String := none
  title : Option String := none
  fileName : Option String := none
  size : Option ImageSize := none
  hidden : Bool := false
  backend : Option Backend := none

def inputLabel : String := "<INPUT>"

def directoryLabel : String := "--output-dir <DIR>"

def sizeLabel : String := "--size <WxH>"

def backendLabel : String := "--backend <BACKEND>"

def hidden : Parameter PlotSettings :=
  { long := "no-show", short := none, label := "--no-show", takesValue := false
    accept := fun _ settings =>
      if settings.hidden then .error (.repeated "--no-show")
      else .ok { settings with hidden := true } }

def plotGrammar : Grammar PlotSettings where
  options :=
    [once "output-dir" (some 'o') directoryLabel (pathOf directoryLabel) (·.outputDirectory)
        fun settings value => { settings with outputDirectory := some value },
      once "name" (some 'n') "--name <NAME>" textOf (·.name)
        fun settings value => { settings with name := some value },
      once "title" (some 't') "--title <TITLE>" textOf (·.title)
        fun settings value => { settings with title := some value },
      once "file-name" none "--file-name <FILE_NAME>" textOf (·.fileName)
        fun settings value => { settings with fileName := some value },
      once "size" none sizeLabel (sizeOf sizeLabel) (·.size)
        fun settings value => { settings with size := some value },
      hidden,
      once "backend" (some 'b') backendLabel (backendOf backendLabel) (·.backend)
        fun settings value => { settings with backend := some value },
      help]
  operand := some <| once "input" none inputLabel (pathOf inputLabel) (·.input)
    fun settings value => { settings with input := some value }

def PlotSettings.options (settings : PlotSettings) : Except UsageError PlotOptions := do
  let labels := (if settings.outputDirectory.isNone then [directoryLabel] else [])
    ++ (if settings.input.isNone then [inputLabel] else [])
  return {
    input := ← required labels settings.input
    outputDirectory := ← required labels settings.outputDirectory
    name := settings.name
    title := settings.title
    fileName := settings.fileName
    size := settings.size
    presents := !settings.hidden
    backend := settings.backend.getD .bitmap }

def readPlot (arguments : List Argument) : Except UsageError Command := do
  return .plot (← (← plotGrammar.readAll {} arguments).options)

/-! The batch command -/

structure BatchSettings where
  config : Option Path := none
  backend : Option Backend := none

def configLabel : String := "<CONFIG>"

def batchGrammar : Grammar BatchSettings where
  options :=
    [once "backend" (some 'b') backendLabel (backendOf backendLabel) (·.backend)
        fun settings value => { settings with backend := some value },
      help]
  operand := some <| once "config" none configLabel (pathOf configLabel) (·.config)
    fun settings value => { settings with config := some value }

def readBatch (arguments : List Argument) : Except UsageError Command := do
  let settings ← batchGrammar.readAll {} arguments
  return .batch (← required [configLabel] settings.config) settings.backend

/-! The info command -/

structure InfoSettings where
  file : Option Path := none

def fileLabel : String := "<FILE>"

def infoGrammar : Grammar InfoSettings where
  options := [help]
  operand := some <| once "file" none fileLabel (pathOf fileLabel) (·.file)
    fun _ value => { file := some value }

def readInfo (arguments : List Argument) : Except UsageError Command := do
  let settings ← infoGrammar.readAll {} arguments
  return .info (← required [fileLabel] settings.file)

/-! The whole line -/

def verbose : Parameter Nat :=
  { long := "verbose", short := some 'v', label := "--verbose...", takesValue := false
    accept := fun _ count => .ok (min (count + 1) 255) }

def topGrammar : Grammar Nat := ⟨[verbose, help, version], none⟩

def commandNames : List String := ["plot", "batch", "info", "help"]

def readHelp : List Argument → UsageError
  | [] => .help
  | name :: rest =>
    match (Utf8.text? name).filter (commandNames.contains ·), rest with
    | some _, [] => .help
    | some _, next :: _ => .unknownCommand (Utf8.lossy next)
    | none, _ => .unknownCommand (Utf8.lossy name)

def readCommand (name : Argument) (arguments : List Argument) : Except UsageError Command :=
  match Utf8.text? name with
  | some "plot" => readPlot arguments
  | some "batch" => readBatch arguments
  | some "info" => readInfo arguments
  | some "help" => .error (readHelp arguments)
  | _ => .error (.unknownCommand (Utf8.lossy name))

/-- A command name does not count after an escape. -/
def misplaced (name : Argument) : UsageError :=
  if (Utf8.text? name).any (commandNames.contains ·) then .unknownArgument (Utf8.lossy name)
  else .unknownCommand (Utf8.lossy name)

def read (arguments : List Argument) : Except UsageError CommandLine := do
  match ← topGrammar.read false arguments (.start 0) with
  | (progress, none) =>
    let verbosity := (← progress.settle).settings
    throw (if verbosity = 0 then .nothingGiven else .missingCommand)
  | (progress, some remainder) =>
    let verbosity := (← progress.settle).settings
    if remainder.escaped then throw (misplaced remainder.argument)
    return ⟨verbosity, ← readCommand remainder.argument remainder.rest⟩

end CommandLine

end Throughput
