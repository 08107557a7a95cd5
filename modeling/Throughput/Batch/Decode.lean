import Throughput.Batch.Config
import Throughput.Binary64.Text
import Throughput.Text.Quoted
import Throughput.Toml.Reader

/-! Decoding batch configurations from TOML.

The fields of a table are decoded in the order in which they stand, and unknown ones are ignored.
In place of a table there may be an array with all its fields in their usual order. -/

namespace Throughput

/-- Never an exponent, and always a point. -/
def NumberStyle.decimal : NumberStyle := ⟨.up, fun _ => true, true, false⟩

/-- The kind of a value, scalars with their content; a date counts as a table. -/
def Toml.Value.kind : Toml.Value → String
  | .string text => "string " ++ Quoted.text text
  | .integer value => s!"integer `{value}`"
  | .float value => "floating point `" ++ value.text .decimal ++ "`"
  | .boolean value => "boolean `" ++ (if value then "true" else "false") ++ "`"
  | .datetime _ => "map"
  | .array _ => "sequence"
  | .table _ => "map"

namespace Config

inductive Need
  | text
  | path
  | flag
  | side
  | size
  | list
  | defaults
  | chart
deriving DecidableEq

def Need.name : Need → String
  | .text => "a string"
  | .path => "path string"
  | .flag => "a boolean"
  | .side => "u32"
  | .size => "a tuple of size 2"
  | .list => "a sequence"
  | .defaults => "struct ChartDefaults"
  | .chart => "struct ChartEntry"

def Need.fields : Need → List String
  | .defaults => ["output_dir", "show", "backend"]
  | .chart => ["name", "input", "output_dir", "title", "file_name", "size", "show"]
  | _ => []

def Need.longName (need : Need) : String :=
  if need.fields.isEmpty then need.name else need.name ++ s!" with {need.fields.length} elements"

inductive DecodeError
  | wrongKind (found : Toml.Value) (need : Need)
  | wrongInteger (found : Int) (need : Need)
  | wrongLength (length : Nat) (need : Need)
  | missingField (name : String)

def DecodeError.message : DecodeError → String
  | .wrongKind found need => "invalid type: " ++ found.kind ++ ", expected " ++ need.name
  | .wrongInteger found need => s!"invalid value: integer `{found}`, expected " ++ need.name
  | .wrongLength length need => s!"invalid length {length}, expected " ++ need.longName
  | .missingField name => "missing field `" ++ name ++ "`"

def textOf : Toml.Value → Except DecodeError String
  | .string text => .ok text
  | other => .error (.wrongKind other .text)

def pathOf : Toml.Value → Except DecodeError Path
  | .string text => .ok (.ofText text)
  | other => .error (.wrongKind other .path)

def flagOf : Toml.Value → Except DecodeError Bool
  | .boolean value => .ok value
  | other => .error (.wrongKind other .flag)

def sideOf : Toml.Value → Except DecodeError UInt32
  | .integer value =>
    if 0 ≤ value ∧ value < UInt32.size then .ok (UInt32.ofNat value.toNat)
    else .error (.wrongInteger value .side)
  | other => .error (.wrongKind other .side)

/-- The width and the height; anything after them is ignored. -/
def sizeOf : Toml.Value → Except DecodeError ImageSize
  | .array [] => .error (.wrongLength 0 .size)
  | .array [width] => do
    let _ ← sideOf width
    throw (.wrongLength 1 .size)
  | .array (width :: height :: _) => do return ⟨← sideOf width, ← sideOf height⟩
  | other => .error (.wrongKind other .size)

def fieldsOf {α : Type} (need : Need) (set : α → String × Toml.Value → Except DecodeError α)
    (start : α) : Toml.Value → Except DecodeError α
  | .table entries => entries.foldlM set start
  | .datetime _ => .ok start
  | .array items => do
    let fields ← (need.fields.zip items).foldlM set start
    if items.length < need.fields.length then throw (.wrongLength items.length need)
    return fields
  | other => .error (.wrongKind other need)

def setDefault (defaults : ChartDefaults) (field : String × Toml.Value) :
    Except DecodeError ChartDefaults :=
  match field with
  | ("output_dir", value) => do return { defaults with outputDirectory := some (← pathOf value) }
  | ("show", value) => do return { defaults with presents := some (← flagOf value) }
  | ("backend", value) => do return { defaults with backend := some (← textOf value) }
  | _ => .ok defaults

def defaultsOf (value : Toml.Value) : Except DecodeError ChartDefaults :=
  fieldsOf .defaults setDefault ChartDefaults.none value

structure ChartFields where
  name : Option String := none
  input : Option Path := none
  outputDirectory : Option Path := none
  title : Option String := none
  fileName : Option String := none
  size : Option ImageSize := none
  presents : Option Bool := none

def setField (fields : ChartFields) (field : String × Toml.Value) :
    Except DecodeError ChartFields :=
  match field with
  | ("name", value) => do return { fields with name := some (← textOf value) }
  | ("input", value) => do return { fields with input := some (← pathOf value) }
  | ("output_dir", value) => do return { fields with outputDirectory := some (← pathOf value) }
  | ("title", value) => do return { fields with title := some (← textOf value) }
  | ("file_name", value) => do return { fields with fileName := some (← textOf value) }
  | ("size", value) => do return { fields with size := some (← sizeOf value) }
  | ("show", value) => do return { fields with presents := some (← flagOf value) }
  | _ => .ok fields

def required {α : Type} (name : String) : Option α → Except DecodeError α
  | some value => .ok value
  | none => .error (.missingField name)

def chartOf (value : Toml.Value) : Except DecodeError ChartEntry := do
  let fields ← fieldsOf .chart setField {} value
  return {
    name := ← required "name" fields.name
    input := ← required "input" fields.input
    outputDirectory := fields.outputDirectory
    title := fields.title
    fileName := fields.fileName
    size := fields.size
    presents := fields.presents }

def chartsOf : Toml.Value → Except DecodeError (List ChartEntry)
  | .array items => items.mapM chartOf
  | other => .error (.wrongKind other .list)

def setPart (config : Config) (part : String × Toml.Value) : Except DecodeError Config :=
  match part with
  | ("defaults", value) => do return { config with defaults := ← defaultsOf value }
  | ("chart", value) => do return { config with charts := ← chartsOf value }
  | _ => .ok config

def ofEntries (entries : List (String × Toml.Value)) : Except DecodeError Config :=
  entries.foldlM setPart ⟨ChartDefaults.none, []⟩

inductive ParseError
  | notToml
  /-- It is a TOML document of another shape. -/
  | misshapen (cause : DecodeError)

def parse (text : String) : Except ParseError Config :=
  match Toml.parse? text with
  | none => .error .notToml
  | some entries => (ofEntries entries).mapError .misshapen

end Config

end Throughput
