import Throughput.Binary64.Basic

/-! Nullable columns of binary64 numbers, and the conversion of byte rates to mebibytes. -/

namespace Throughput

/-- A table cell; `none` marks a gap in the log. -/
abbrev Cell := Option Binary64

abbrev Column := List Cell

namespace Column

def nullCount (column : Column) : Nat := column.countP Option.isNone

def slice (column : Column) (offset length : Nat) : Column := (column.drop offset).take length

def nanFilled (column : Column) : List Binary64 := column.map fun cell => cell.getD .nan

def present (column : Column) : List Binary64 := column.filterMap id

end Column

namespace Binary64

def mebibyte : Binary64 := ofNat (1024 * 1024)

def toMebibytes (bytes : Binary64) : Binary64 := bytes / mebibyte

end Binary64

def Column.toMebibytes (column : Column) : Column :=
  column.map fun cell => cell.map Binary64.toMebibytes

end Throughput
