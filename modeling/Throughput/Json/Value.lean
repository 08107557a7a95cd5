import Throughput.Binary64.Basic

/-! JSON values. An object keeps one value for each key, with its keys in ascending order. -/

namespace Throughput.Json

inductive Value
  | null
  | boolean (value : Bool)
  | integer (value : Int)
  | float (value : Binary64)
  | string (text : String)
  | array (items : List Value)
  | object (members : List (String × Value))

instance : Inhabited Value := ⟨.null⟩

/-- Members in ascending order of their keys. -/
abbrev Object := List (String × Value)

namespace Object

def insert (key : String) (value : Value) : Object → Object
  | [] => [(key, value)]
  | (first, held) :: rest =>
    if key < first then (key, value) :: (first, held) :: rest
    else if key = first then (key, value) :: rest
    else (first, held) :: insert key value rest

/-- The object of a list of members; of equal keys the last one counts. -/
def ofMembers (members : List (String × Value)) : Object :=
  members.foldl (fun object (key, value) => object.insert key value) []

def get? (key : String) : Object → Option Value
  | [] => none
  | (first, held) :: rest => if key = first then some held else get? key rest

def contains (key : String) (object : Object) : Bool := (object.get? key).isSome

end Object

end Throughput.Json
