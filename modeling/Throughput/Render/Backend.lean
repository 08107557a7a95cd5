import Throughput.Render.Bitmap

/-! The backends that a chart can be rendered with. -/

namespace Throughput

inductive Backend
  | bitmap
  | matplotlib
deriving DecidableEq

namespace Backend

instance : Inhabited Backend := ⟨.bitmap⟩

def name : Backend → String
  | .bitmap => "bitmap"
  | .matplotlib => "matplotlib"

def ofName? (name : String) : Option Backend :=
  match name.toLower with
  | "bitmap" | "plotters" => some .bitmap
  | "matplotlib" | "pyplot" => some .matplotlib
  | _ => none

def unknownMessage (name : String) : String :=
  "unknown backend '" ++ name.toLower ++ "' (expected 'bitmap' or 'matplotlib')"

def ofName (name : String) : Except String Backend :=
  match ofName? name with
  | some backend => .ok backend
  | none => .error (unknownMessage name)

def renderer : Backend → Except RenderError Renderer
  | .bitmap => .ok .bitmap
  | .matplotlib => .error (.unavailable "matplotlib backend requires the `python` feature")

end Backend

end Throughput
