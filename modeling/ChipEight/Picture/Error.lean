import ChipEight.Failure
import ChipEight.Picture.Colour
import ChipEight.Text.ByteCount

/-!
# What can be wrong with a picture

The reasons why a screen buffer, a grid of pixels, a colour or a file name is refused when a picture
is made of them. Those of the library that writes image files are kept apart: which of them it has,
and when, is its own matter.
-/

namespace ChipEight

/-- Why a library of images refuses a picture. -/
inductive ImageError where
  /-- A side of the picture is too long. -/
  | longSide
  /-- A row of the picture has too many bytes. -/
  | longRow
  /-- No kind of image file has the extension. -/
  | extension (text : String)
  /-- The picture has no pixels. -/
  | empty
  /-- Some other reason, in words. -/
  | other (text : String)
deriving DecidableEq, Repr

def ImageError.message : ImageError → String
  | .longSide => "signed integer is greater than maximum"
  | .longRow => ""
  | .extension text => "unknown file extension: " ++ text
  | .empty => "cannot write empty image"
  | .other text => text

/-- Why a picture cannot be made. -/
inductive PictureError where
  /-- A number is not a byte. -/
  | range (e : RangeError)
  /-- A buffer does not hold as many pixels as the dimensions say. -/
  | size (bytes : Nat) (width height : Int)
  /-- Both dimensions are negative. -/
  | bothNegative
  /-- One dimension is negative and the other one is zero. -/
  | noPixels (width height : Int)
  /-- A dimension is outside the signed 64-bit numbers. -/
  | dimensionRange
  /-- The rows of a grid do not have the same shape. -/
  | ragged (shape : List Nat)
  /-- Lists are nested more deeply than the dimensions that there can be. -/
  | tooDeep (limit : Nat)
  /-- A grid does not have two dimensions. -/
  | dimensions (count : Nat)
  /-- A colour has some other number of components than one or three. -/
  | components (count pixels : Nat)
  /-- A side of an enlarged picture has come out negative. -/
  | negativeSide
  /-- The bytes of a picture cannot be counted. -/
  | uncountable
  /-- There is no memory for the bytes of a picture. -/
  | noRoom (rows columns : Nat)
  /-- No colour scheme has the name. -/
  | scheme (name : String)
  /-- The file cannot be written. -/
  | file (name : String) (reason : AccessError)
  /-- The library of images refuses the picture. -/
  | image (reason : ImageError)
deriving DecidableEq, Repr

namespace PictureError

/-- The numbers of a shape between round brackets; a single one is followed by a comma. -/
def shapeText : List Nat → String
  | [n] => "(" ++ Numeral.text n ++ ",)"
  | shape => "(" ++ String.intercalate ", " (shape.map fun n : Nat ↦ Numeral.text n) ++ ")"

def byteCount (rows columns : Nat) : Nat := rows * columns * 3

def message : PictureError → String
  | .range e => e.message
  | .size bytes width height =>
    "Screen buffer of " ++ Numeral.text bytes ++ " bytes does not match " ++ Numeral.text width ++
      "x" ++ Numeral.text height ++ " pixels"
  | .bothNegative => "can only specify one unknown dimension"
  | .noPixels width _ =>
    "cannot reshape array of size 0 into shape (0" ++ (if width < 0 then ",newaxis)" else ")")
  | .dimensionRange => "Maximum allowed dimension exceeded"
  | .ragged shape =>
    "setting an array element with a sequence. The requested array has an inhomogeneous shape " ++
      "after " ++ Numeral.text shape.length ++ " dimensions. The detected shape was " ++
      shapeText shape ++ " + inhomogeneous part."
  | .tooDeep limit =>
    "setting an array element with a sequence. The requested array would exceed the maximum " ++
      "number of dimension of " ++ Numeral.text limit ++ "."
  | .dimensions count =>
    if count < 2 then
      "not enough values to unpack (expected 2, got " ++ Numeral.text count ++ ")"
    else "too many values to unpack (expected 2)"
  | .components count pixels =>
    "shape mismatch: value array of shape " ++ shapeText [count] ++
      " could not be broadcast to indexing result of shape (" ++ Numeral.text pixels ++ ",3)"
  | .negativeSide => "negative dimensions are not allowed"
  | .uncountable =>
    "array is too big; `arr.size * arr.dtype.itemsize` is larger than the maximum possible size."
  | .noRoom rows columns =>
    "Unable to allocate " ++ ByteCount.text (byteCount rows columns) ++
      " for an array with shape " ++ shapeText [rows, columns, 3] ++ " and data type uint8"
  | .scheme name => "Unknown color scheme '" ++ name ++ "'. Available: " ++ Scheme.nameList
  | .file name reason => reason.message name
  | .image reason => reason.message

end PictureError

end ChipEight
