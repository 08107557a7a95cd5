import Throughput.Text.Utf8

/-! File paths: any bytes, with slashes between the names. -/

namespace Throughput

structure Path where
  bytes : List UInt8
deriving DecidableEq

namespace Path

def slash : UInt8 := 0x2F

def dot : UInt8 := 0x2E

def ofText (text : String) : Path := ⟨Utf8.bytes text⟩

def display (path : Path) : String := Utf8.lossy path.bytes

def isAbsolute (path : Path) : Bool := path.bytes.head? == some slash

def endsWithSlash (path : Path) : Bool := path.bytes.getLast? == some slash

/-- The path of `right` as seen from `left`. -/
def join (left right : Path) : Path :=
  if right.isAbsolute then right
  else if left.bytes.isEmpty || left.endsWithSlash then ⟨left.bytes ++ right.bytes⟩
  else ⟨left.bytes ++ slash :: right.bytes⟩

/-- The pieces between slashes, empty ones included. -/
def split : List UInt8 → List (List UInt8)
  | [] => [[]]
  | byte :: rest =>
    if byte = slash then [] :: split rest
    else
      match split rest with
      | [] => [[byte]]
      | piece :: pieces => (byte :: piece) :: pieces

def names (path : Path) : List (List UInt8) := (split path.bytes).filter (!·.isEmpty)

def ofNames (absolute : Bool) (names : List (List UInt8)) : Path :=
  ⟨(if absolute then [slash] else []) ++ [slash].intercalate names⟩

def here : List UInt8 := [dot]

def above : List UInt8 := [dot, dot]

/-- The last name, unless the path ends at a directory above or at the root. -/
def fileName? (path : Path) : Option (List UInt8) :=
  match (path.names.filter (· != here)).getLast? with
  | some name => if name = above then none else some name
  | none => none

/-- Splits a file name at its last dot; a dot at the very start belongs to the name. -/
def splitName (name : List UInt8) : List UInt8 × Option (List UInt8) :=
  let extension := (name.reverse.takeWhile (· != dot)).reverse
  let stem := name.take (name.length - extension.length - 1)
  if stem.isEmpty then (name, none) else (stem, some extension)

def fileStem? (path : Path) : Option (List UInt8) := path.fileName?.map fun name => (splitName name).1

def extension? (path : Path) : Option (List UInt8) :=
  path.fileName?.bind fun name => (splitName name).2

end Path

end Throughput
