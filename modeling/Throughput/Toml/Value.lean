import Throughput.Binary64.Basic

/-! TOML values. The entries of a table stand in the order in which they came to be. -/

namespace Throughput.Toml

inductive Value
  | string (text : String)
  | integer (value : Int)
  | float (value : Binary64)
  | boolean (value : Bool)
  /-- A date, a time or both, as written. -/
  | datetime (text : String)
  | array (items : List Value)
  | table (entries : List (String × Value))

instance : Inhabited Value := ⟨.boolean false⟩

end Throughput.Toml
