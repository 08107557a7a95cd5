import Throughput.Json.Reader
import Throughput.Run
import Throughput.Table.Basic

/-! Loading a log: an array of records with a second and a byte rate in each.

A column exists if at least one record has its key. A record without the key, or with null,
leaves a gap; any other value that is not a number is rejected. -/

namespace Throughput

inductive LoadError
  | unopened (cause : SystemError)
  | unread (cause : SystemError)
  | malformed (cause : Json.SyntaxError)
  | columnNotFound (column : String)
  | nonNumeric (column : String) (row : Nat) (value : String)
  | lengthsDiffer (seconds rates : Nat)
  | shape (cause : ShapeError)

namespace LoadError

def message : LoadError → String
  | .unopened cause => "I/O error: " ++ cause.message
  | .unread cause => "JSON error: " ++ cause.message
  | .malformed cause => "JSON error: " ++ cause.message
  | .columnNotFound column => "Column not found: " ++ column
  | .nonNumeric column row value =>
    "Non-numeric value " ++ value ++ " in column " ++ column ++ s!" at row {row}"
  | .lengthsDiffer seconds rates =>
    s!"Invalid format: column lengths differ: {seconds} seconds, {rates} rates"
  | .shape cause => "Arrow error: " ++ cause.message

def causes : LoadError → List String
  | .unopened cause => [cause.message]
  | .unread cause => [cause.message]
  | .malformed cause => [cause.message]
  | .shape cause => [cause.message]
  | _ => []

end LoadError

namespace SampleTable

def cellOf (column : String) (row : Nat) (record : Json.Object) : Except LoadError Cell :=
  match record.get? column with
  | none | some .null => .ok none
  | some (.integer value) => .ok (some (.ofInt value))
  | some (.float value) => .ok (some value)
  | some other => .error (.nonNumeric column row other.text)

/-- The cells of the records from a row on; the first bad one decides. -/
def cellsFrom (column : String) : Nat → List Json.Object → Except LoadError Column
  | _, [] => .ok []
  | row, record :: rest => do
    let cell ← cellOf column row record
    let cells ← cellsFrom column (row + 1) rest
    return cell :: cells

def columnOf (column : String) (records : List Json.Object) : Except LoadError Column :=
  if records.any (·.contains column) then cellsFrom column 0 records
  else .error (.columnNotFound column)

def ofRecords (records : List Json.Object) : Except LoadError SampleTable := do
  let second ← columnOf Field.second.name records
  let rateBytes ← columnOf Field.rateBytes.name records
  (ofColumns second rateBytes).mapError .shape

def ofInput (origin : Json.Origin) (input : List UInt8) : Except LoadError SampleTable := do
  let records ← (Json.records origin input).mapError .malformed
  ofRecords records

def ofText (text : String) : Except LoadError SampleTable := ofInput .text (Utf8.bytes text)

def ofBytes (input : List UInt8) : Except LoadError SampleTable := ofInput .stream input

def ofValues (seconds rates : List Binary64) : Except LoadError SampleTable :=
  if seconds.length = rates.length then
    (ofColumns (seconds.map some) (rates.map some)).mapError .shape
  else .error (.lengthsDiffer seconds.length rates.length)

def readError : FileTree.ReadError → LoadError
  | .opening cause => .unopened cause
  | .reading cause => .unread cause

def load (path : Path) : Run LoadError SampleTable := do
  Run.log .info .loader ("Loading rate log " ++ path.display)
  let input ← Run.lift readError ((← Run.tree).read path)
  let table ← Run.lift id (ofBytes input)
  Run.log .debug .loader (s!"Loaded {table.length} samples from " ++ path.display)
  return table

end SampleTable

end Throughput
