import ChipEight.Picture.Error

/-!
# Extents

The extent of a picture is how many rows and columns it has. It is worked out before the picture is
made, because an extent can be asked for that no picture can have.

## Counting

Lengths are counted in signed 64-bit numbers. A side that is enlarged is counted around the end of
these numbers, and may come out as something else than a multiple of what it was. A picture that has
no pixels takes no memory, but the sides that it has still count towards the number of its bytes.

For how many bytes there is memory is not for this file to say: it is a function of the number.
-/

namespace ChipEight

/-- The numbers of rows and columns of a picture. -/
structure Extent where
  /-- The number of rows. -/
  rows : Int
  /-- The number of columns. -/
  columns : Int
deriving DecidableEq, Repr

namespace Extent

def isEmpty (e : Extent) : Bool := e.rows == 0 || e.columns == 0

/-- A side as it counts towards the number of bytes. -/
def counted (side : Int) : Nat := if side = 0 then 1 else side.toNat

def check (room : Nat → Bool) (e : Extent) : Except PictureError Unit :=
  let bytes := PictureError.byteCount (counted e.rows) (counted e.columns)
  if e.rows < 0 ∨ e.columns < 0 then .error .negativeSide
  else if !fitsSigned 64 bytes then .error .uncountable
  else if !e.isEmpty && !room bytes then .error (.noRoom e.rows.toNat e.columns.toNat)
  else .ok ()

/-- A side counted around the end of the 64-bit numbers. -/
def around (side : Int) : Int := (BitVec.ofInt 64 side).toInt

/-- The extent of a picture in which every pixel is repeated, downwards first and then to the right.
A scale below two repeats nothing. -/
def enlarge (room : Nat → Bool) (e : Extent) (scale : Int) : Except PictureError Extent := do
  e.check room
  if scale ≤ 1 then return e
  if !fitsSigned 64 scale then throw (.range .int64)
  let taller := { e with rows := around (scale * e.rows) }
  taller.check room
  let wider := { taller with columns := around (scale * e.columns) }
  wider.check room
  return wider

end Extent

end ChipEight
