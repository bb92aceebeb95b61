import ChipEight.Sprite

/-!
# Stamps

A sprite can also be drawn without unpacking the screen. Each of its rows, moved to its place, meets
one byte of the screen or two neighbouring ones; the second one is left out where the screen ends.
The stamp of a sprite is the packed screen of all these bytes, and drawing is one exclusive or of
two packed screens.

This is the second way to draw, beside the grids of `Sprite.mask`. Neither is defined by the other.
-/

namespace ChipEight

namespace Sprite

variable {g : Geometry}

/-- What a sprite flips in the byte at a row and a column of bytes. -/
def stampByte (p : Sprite) (m : Memory) (row column : Nat) : Byte :=
  if p.top ≤ row ∧ row < p.top + p.rows then
    let b := m.read (p.address + (row - p.top))
    if column = p.left / 8 then b >>> (p.left % 8)
    else if column = p.left / 8 + 1 ∧ 0 < p.left % 8 then b <<< (8 - p.left % 8)
    else 0
  else 0

/-- What a sprite flips in every byte of a screen. -/
def stamp (p : Sprite) (m : Memory) : Screen g :=
  Vector.ofFn fun k ↦ p.stampByte m (k / g.rowBytes) (k % g.rowBytes)

end Sprite

namespace Screen

variable {g : Geometry}

/-- A screen with the lit pixels of a stamp flipped. -/
def stamped (s mark : Screen g) : Screen g := Vector.ofFn fun k ↦ s[k] ^^^ mark[k]

/-- Whether a screen and a stamp have a lit pixel in common. -/
def meets (s mark : Screen g) : Bool := decide (∃ k : Fin g.size, s[k] &&& mark[k] ≠ 0)

end Screen

end ChipEight
