import ChipEight.Memory
import ChipEight.Screen

/-!
# Sprites

A sprite is a column of bytes in memory, each a row of eight pixels. It is drawn by flipping the
pixels of the screen under its set bits. Its upper left corner always lies on the screen; what runs
past the right or the lower edge is cut off.

A sprite collides with the screen when it flips a lit pixel.
-/

namespace ChipEight

/-- A sprite in memory and the place of its upper left corner. -/
structure Sprite where
  /-- The address of its first row. -/
  address : Nat
  /-- The number of its rows. -/
  rows : Nat
  /-- The column of its left edge. -/
  left : Nat
  /-- The row of its upper edge. -/
  top : Nat
deriving DecidableEq, Repr

namespace Sprite

variable {g : Geometry}

/-- The pixels of the screen that lie under set bits of a sprite. -/
def mask (p : Sprite) (m : Memory) : Grid g := fun r c ↦
  (decide (p.left ≤ c ∧ c < p.left + 8 ∧ p.top ≤ r ∧ r < p.top + p.rows)) &&
    (m.read (p.address + (r - p.top))).getMsbD (c - p.left)

end Sprite

namespace Grid

variable {g : Geometry}

/-- The pixels that are lit in exactly one of two grids. -/
def flip (a b : Grid g) : Grid g := fun r c ↦ a r c ^^ b r c

/-- Whether a pixel is lit in both of two grids. -/
def collides (a b : Grid g) : Bool := decide (∃ r c, a r c && b r c)

end Grid

end ChipEight
