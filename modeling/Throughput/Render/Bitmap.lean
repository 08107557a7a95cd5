import Throughput.Render.Renderer
import Throughput.Render.Viewer
import Throughput.Text.Quoted

/-! The bitmap renderer: it encodes a drawing into an image file.

The extension of the file name decides the format. The file is created before the drawing is
encoded, so an encoder that refuses leaves what it wrote so far. -/

namespace Throughput.Bitmap

inductive FileFormat
  | image (format : ImageFormat)
  /-- A format that can be named but not written. -/
  | foreign (name : String)
deriving DecidableEq

def FileFormat.ofExtension? (extension : String) : Option FileFormat :=
  match extension.toLower with
  | "png" => some (.image .png)
  | "jpg" | "jpeg" => some (.image .jpeg)
  | "bmp" => some (.image .bmp)
  | "avif" => some (.foreign "Avif")
  | "gif" => some (.foreign "Gif")
  | "webp" => some (.foreign "WebP")
  | "tif" | "tiff" => some (.foreign "Tiff")
  | "tga" => some (.foreign "Tga")
  | "dds" => some (.foreign "Dds")
  | "ico" => some (.foreign "Ico")
  | "hdr" => some (.foreign "Hdr")
  | "exr" => some (.foreign "OpenExr")
  | "pbm" | "pam" | "ppm" | "pgm" => some (.foreign "Pnm")
  | "ff" | "farbfeld" => some (.foreign "Farbfeld")
  | "qoi" => some (.foreign "Qoi")
  | _ => none

def FileFormat.ofPath? (path : Path) : Option FileFormat := do
  FileFormat.ofExtension? (← Utf8.text? (← path.extension?))

inductive EncodeError
  | unknownFormat (extension : Option (List UInt8))
  | foreignFormat (name : String)
  | system (cause : SystemError)
  | zeroWidth
  | zeroHeight
  | tooLarge
deriving DecidableEq

namespace EncodeError

def unsupported (format kind : String) : String :=
  "Unsupported(UnsupportedError \x7b format: " ++ format ++ ", kind: Format(" ++ kind ++ ") \x7d)"

def custom (text : String) : String :=
  "IoError(Custom \x7b kind: Other, error: \"" ++ text ++ "\" \x7d)"

def details : EncodeError → String
  | .unknownFormat none => unsupported "Unknown" "Unknown"
  | .unknownFormat (some extension) =>
    let hint := "PathExtension(" ++ Quoted.bytes extension ++ ")"
    unsupported hint hint
  | .foreignFormat name => unsupported "Unknown" ("Name(\"" ++ name ++ "\")")
  | .system cause => "IoError(" ++ cause.details ++ ")"
  | .zeroWidth => custom "Zero width not allowed"
  | .zeroHeight => custom "Zero height not allowed"
  | .tooLarge => "Parameter(ParameterError \x7b kind: DimensionMismatch, underlying: None \x7d)"

def message (error : EncodeError) : String :=
  "backend error: Drawing backend error: ImageError(" ++ error.details ++ ")"

end EncodeError

/-- The end chunk of a PNG image, the only part of it that is written without a header. -/
def pngEnd : List UInt8 := [0, 0, 0, 0, 0x49, 0x45, 0x4E, 0x44, 0xAE, 0x42, 0x60, 0x82]

def jpegStart : List UInt8 :=
  [0xFF, 0xD8, 0xFF, 0xE0, 0, 16, 0x4A, 0x46, 0x49, 0x46, 0, 1, 2, 0, 0, 1, 0, 1, 0, 0]

def jpegLimit : UInt32 := 65535

def encode (format : FileFormat) (drawing : Drawing) : Content × Except EncodeError Unit :=
  let size := drawing.chart.size
  match format with
  | .foreign name => (.bytes [], .error (.foreignFormat name))
  | .image .png =>
    if size.width = 0 then (.bytes pngEnd, .error .zeroWidth)
    else if size.height = 0 then (.bytes pngEnd, .error .zeroHeight)
    else (.image ⟨.png, drawing⟩, .ok ())
  | .image .jpeg =>
    if jpegLimit < size.width ∨ jpegLimit < size.height then (.bytes jpegStart, .error .tooLarge)
    else (.image ⟨.jpeg, drawing⟩, .ok ())
  | .image .bmp => (.image ⟨.bmp, drawing⟩, .ok ())

def save (drawing : Drawing) (output : Path) (tree : FileTree) :
    Except EncodeError Unit × FileTree :=
  match FileFormat.ofPath? output with
  | none => (.error (.unknownFormat output.extension?), tree)
  | some format =>
    match tree.destination output with
    | .error cause => (.error (.system cause), tree)
    | .ok location =>
      let (content, result) := encode format drawing
      (result, tree.put location (.file content))

def drawingNote (drawing : Drawing) : LogRecord :=
  ⟨.debug, .bitmap,
    s!"Drawing {drawing.lines.length} line segment(s), x " ++ drawing.x.text ++ ", y "
      ++ drawing.y.text⟩

def render (x y : List Binary64) (chart : ChartSpec) (output : Path) (tree : FileTree) : Outcome :=
  let drawing := Drawing.ofSeries x y chart
  let (result, tree) := save drawing output tree
  { result := result.mapError fun error => .plot error.message
    tree
    records := Drawing.notes x y ++ [drawingNote drawing] }

end Throughput.Bitmap

namespace Throughput.Renderer

def bitmap : Renderer where
  name := "bitmap"
  render := Bitmap.render
  present := Viewer.present

end Throughput.Renderer
