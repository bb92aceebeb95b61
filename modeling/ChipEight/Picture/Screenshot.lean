import ChipEight.Picture.Bitmap
import ChipEight.Picture.Extent

/-!
# Pictures and screenshots

A picture is a grid of colours. It is painted from a bitmap with a palette and enlarged by repeating
every pixel and every row; a scale below two leaves it as it is. A palette may be one of the named
schemes or be given by its components.

A screenshot is a picture in a file. What can be refused is looked at in turn: the colour scheme
first, then the screen, the extent of the picture, the name of the file and the file. What kinds of
files there are and which pictures they can hold is up to the library that writes them. It is a
parameter, as the file system and the memory are, and has its last word when the file is already
there.
-/

namespace ChipEight

/-- The colour of a list of components; a single one counts for all three. The number of pixels
that are to have the colour is repeated when the list is refused. -/
def Colour.ofComponents (values : List Int) (pixels : Nat) : Except PictureError Colour := do
  match ← Bitmap.bytes values with
  | [red, green, blue] => return { red, green, blue }
  | [grey] => return { red := grey, green := grey, blue := grey }
  | bytes => throw (.components bytes.length pixels)

def Palette.ofComponents (b : Bitmap) (on off : List Int) : Except PictureError Palette := do
  let on ← Colour.ofComponents on (b.count true)
  let off ← Colour.ofComponents off (b.count false)
  return { on, off }

/-- Rows of colours, all of the given width. -/
structure Picture where
  /-- The pixels in each row. -/
  width : Nat
  /-- The rows, from the top. -/
  rows : List (List Colour)
deriving DecidableEq, Repr

namespace Picture

/-- Every element of a list, a number of times in a row. -/
def stretch {α : Type} (times : Nat) (xs : List α) : List α := xs.flatMap (List.replicate times)

/-- The picture of a bitmap, each pixel a square of the given scale. -/
def paint (b : Bitmap) (scale : Int) (p : Palette) : Picture :=
  let times := max scale.toNat 1
  { width := times * b.width
    rows := stretch times
      (b.rows.map fun row ↦ stretch times (row.map fun lit ↦ if lit then p.on else p.off)) }

/-- The picture of a bitmap, if there can be one of its extent. -/
def make (room : Nat → Bool) (b : Bitmap) (scale : Int) (p : Palette) :
    Except PictureError Picture := do
  let _ ← Extent.enlarge room { rows := b.rows.length, columns := b.width } scale
  return paint b scale p

end Picture

/-! ## Image files -/

/-- A library that makes image files of pictures: what it refuses, and when. -/
structure ImageLibrary where
  /-- Whether it takes over a picture of the extent. -/
  accepts : Extent → Except ImageError Unit
  /-- The kind of file that a file name asks for. -/
  formatOf : String → Except ImageError String
  /-- Whether a picture of the extent can be written as a file of the kind. -/
  encodes : String → Extent → Except ImageError Unit

/-- What pictures need of the system that they are made on. -/
structure Host extends Storage where
  /-- Whether there is memory to make a picture of a number of bytes. -/
  room : Nat → Bool
  /-- The library that writes image files. -/
  library : ImageLibrary

/-- A picture and the kind of file that it is saved in. -/
structure Screenshot where
  /-- The kind of file. -/
  format : String
  /-- The picture. -/
  picture : Picture
deriving DecidableEq, Repr

namespace Screenshot

def defaultScale : Int := 8

/-- Saves the picture of a packed screen: what the store is given under the file name. -/
def save (host : Host) (file : String) (screen : List Byte) (width height scale : Int)
    (palette : Palette) : Except PictureError Screenshot := do
  Bitmap.checkPacked screen.length width height
  let extent ← Extent.enlarge host.room { rows := height, columns := width } scale
  (host.library.accepts extent).mapError .image
  let format ← (host.library.formatOf file).mapError .image
  (host.checkWritable file).mapError (.file file)
  (host.library.encodes format extent).mapError .image
  let bitmap := Bitmap.unpack screen width.toNat height.toNat
  return { format, picture := Picture.paint bitmap scale palette }

/-- Saves the picture of a screen that is given as numbers, in the colours of a named scheme. -/
def saveNumbers (host : Host) (file : String) (screen : Nested Int)
    (width height scale : Int) (scheme : String) : Except PictureError Screenshot := do
  match Scheme.ofName? scheme with
  | none => throw (.scheme scheme)
  | some c => save host file (← Bitmap.nestedBytes screen) width height scale c.palette

end Screenshot

end ChipEight
