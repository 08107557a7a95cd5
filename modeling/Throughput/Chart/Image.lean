import Throughput.Chart.Drawing

/-! Encoded chart images. An image is known by its format and by the drawing that it shows. -/

namespace Throughput

inductive ImageFormat
  | png
  | jpeg
  | bmp
deriving DecidableEq

namespace ImageFormat

def signature : ImageFormat → List UInt8
  | .png => [0x89, 0x50, 0x4E, 0x47, 0x0D, 0x0A, 0x1A, 0x0A]
  | .jpeg => [0xFF, 0xD8, 0xFF]
  | .bmp => [0x42, 0x4D]

end ImageFormat

structure Image where
  format : ImageFormat
  drawing : Drawing
deriving DecidableEq

namespace Image

def wordBytes (value : UInt32) : List UInt8 :=
  [value >>> 24, value >>> 16, value >>> 8, value].map UInt32.toUInt8

/-- Length and kind of the chunk that starts with the size of a PNG image. -/
def pngHeader : List UInt8 := [0, 0, 0, 13, 0x49, 0x48, 0x44, 0x52]

def bmpHeaderLength : UInt32 := 54

/-- Bytes of the pixels of a BMP image: three for each pixel, and every row is filled up to a
multiple of four. -/
def bmpPixelLength (size : ImageSize) : UInt32 :=
  size.width * size.height * 3 + size.height * ((4 - size.width * 3 % 4) % 4)

/-- Header of a BMP image after its signature, numbers with the least significant byte first:
lengths, size, one plane of 24 bits, and no compression. -/
def bmpHeader (size : ImageSize) : List UInt8 :=
  let words (values : List UInt32) := values.flatMap fun value => (wordBytes value).reverse
  words [bmpHeaderLength + bmpPixelLength size, 0, bmpHeaderLength, 40, size.width, size.height]
    ++ [1, 0, 24, 0] ++ words [0, bmpPixelLength size, 0, 0, 0, 0]

/-- The first bytes of an image file: the signature of its format, in a PNG file its size, and in
a BMP file the whole header. The byte after them belongs to no text; a BMP image without pixels
has no such byte. -/
def start (image : Image) : List UInt8 :=
  let size := image.drawing.chart.size
  let details := match image.format with
    | .png => pngHeader ++ wordBytes size.width ++ wordBytes size.height ++ [0xFF]
    | .jpeg => [0xFF]
    | .bmp => bmpHeader size ++ if size.width = 0 ∨ size.height = 0 then [] else [0xFF]
  image.format.signature ++ details

end Image

end Throughput
