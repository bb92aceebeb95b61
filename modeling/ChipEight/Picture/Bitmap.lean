import ChipEight.Picture.Nested

/-!
# Bitmaps

A bitmap is a list of rows of pixels. It is made from a packed buffer by laying all bits of the
buffer in one line, leftmost first, and cutting the line into rows. Nothing is assumed of the width,
which need not be a whole number of bytes.

This is a second way to read a packed screen, beside `Screen.grid`. It works on any buffer and any
dimensions and therefore has to check them. Buffers and grids of pixels may be given as nested
lists.
-/

namespace ChipEight

/-- Rows of pixels, all of the given width. -/
structure Bitmap where
  /-- The pixels in each row. -/
  width : Nat
  /-- The rows, from the top. -/
  rows : List (List Bool)
deriving DecidableEq, Repr

namespace Bitmap

/-- The bytes of a list of numbers, the first one that is no byte being reported. -/
def bytes (values : List Int) : Except PictureError (List Byte) :=
  values.mapM fun v ↦ (exactCell 8 v).mapError .range

/-- The bytes of a nested list of numbers, the shape of which is looked at first. -/
def nestedBytes (values : Nested Int) : Except PictureError (List Byte) := do
  let _ ← values.shape
  bytes values.elements

/-- Cuts a number of rows off a line of pixels. -/
def cut (width : Nat) : Nat → List Bool → List (List Bool)
  | 0, _ => []
  | rows + 1, line => line.take width :: cut width rows (line.drop width)

/-- Checks whether a buffer of the given length can hold a bitmap of the given dimensions. A buffer
with bytes in it has no more rows or columns than bits; only an empty one leaves a dimension open,
which then has to be a signed 64-bit number. -/
def checkPacked (length : Nat) (width height : Int) : Except PictureError Unit :=
  if length * 8 ≠ width * height then .error (.size length width height)
  else if length = 0 ∧ !(fitsSigned 64 width && fitsSigned 64 height) then .error .dimensionRange
  else if width < 0 ∧ height < 0 then .error .bothNegative
  else if width < 0 ∨ height < 0 then .error (.noPixels width height)
  else .ok ()

/-- The bitmap of the given dimensions that is packed in a buffer. -/
def unpack (buffer : List Byte) (width height : Nat) : Bitmap where
  width
  rows := cut width height (buffer.flatMap Byte.bits)

/-- The bitmap that is packed in a buffer, if the buffer can hold it. -/
def ofPacked (buffer : List Byte) (width height : Int) : Except PictureError Bitmap := do
  checkPacked buffer.length width height
  return unpack buffer width.toNat height.toNat

/-- A bitmap as text, one line for each row and no line break at the end. -/
def text (b : Bitmap) (on off : String) : String :=
  String.intercalate "\n"
    (b.rows.map fun row ↦ String.join (row.map fun lit ↦ if lit then on else off))

def count (b : Bitmap) (lit : Bool) : Nat := b.rows.flatten.count lit

/-- The bitmap of a nested list of pixels, which has to have exactly two dimensions. -/
def ofNested (pixels : Nested Bool) : Except PictureError Bitmap := do
  match ← pixels.shape with
  | [_, width] => return { width, rows := pixels.parts.map Nested.elements }
  | lengths => throw (.dimensions lengths.length)

end Bitmap

end ChipEight
