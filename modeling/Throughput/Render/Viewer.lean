import Throughput.Render.Renderer
import Throughput.Text.Quoted

/-! Handing an image over to the viewer of the desktop. Starting other programs is not possible
here, so the viewer is never found. -/

namespace Throughput.Viewer

def program : String := "xdg-open"

def command (path : Path) : String :=
  "\"" ++ program ++ "\" " ++ Quoted.bytes path.bytes

def openingNote (path : Path) : LogRecord :=
  ⟨.debug, .viewer, "Opening " ++ path.display ++ " with " ++ command path⟩

def present (path : Path) (tree : FileTree) : Outcome :=
  { result := .error (.io .notFound), tree, records := [openingNote path] }

end Throughput.Viewer
