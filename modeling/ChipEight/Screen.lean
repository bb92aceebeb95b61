import ChipEight.Byte

/-!
# The screen

A screen is kept packed: one bit per pixel, eight pixels per byte, row after row, the leftmost pixel
in the most significant bit. Its width is a whole number of bytes, so every byte lies in one row.

Drawing does not work on the bytes but on a grid of pixels. `Screen.grid` unpacks a screen and
`Screen.ofGrid` packs a grid; that they are inverse to each other is what allows a picture to be
changed pixel by pixel and kept byte by byte.
-/

namespace ChipEight

structure Geometry where
  /-- The bytes in one row. -/
  rowBytes : Nat
  /-- The rows. -/
  height : Nat
  /-- No row is empty. -/
  rowBytes_pos : 0 < rowBytes
  /-- There is a row. -/
  height_pos : 0 < height
deriving DecidableEq, Repr

namespace Geometry

variable (g : Geometry)

/-- The pixels in one row. -/
def width : Nat := 8 * g.rowBytes

abbrev size : Nat := g.rowBytes * g.height

theorem width_pos : 0 < g.width := Nat.mul_pos (by decide) g.rowBytes_pos

theorem width_mul_height : g.width * g.height = 8 * g.size := Nat.mul_assoc ..

end Geometry

/-- The pixels of a screen, by row and column. -/
abbrev Grid (g : Geometry) := Fin g.height → Fin g.width → Bool

/-- The packed pixels of a screen. -/
abbrev Screen (g : Geometry) := Vector Byte g.size

namespace Screen

variable {g : Geometry}

def blank : Screen g := Vector.replicate g.size 0

/-- A bit of the screen, counted from the first row's leftmost pixel. -/
def bit (s : Screen g) (k : Nat) : Bool := (s[k / 8]?.getD 0).getMsbD (k % 8)

def grid (s : Screen g) : Grid g := fun r c ↦ s.bit (r * g.width + c)

/-- The pixel of a grid that is packed into a bit. -/
def gridBit (p : Grid g) (k : Nat) : Bool :=
  if h : k / g.width < g.height then
    p ⟨k / g.width, h⟩ ⟨k % g.width, Nat.mod_lt _ g.width_pos⟩
  else false

def ofGrid (p : Grid g) : Screen g :=
  Vector.ofFn fun i ↦ Byte.ofBits fun j ↦ gridBit p (8 * i + j)

/-! ## Packing and unpacking -/

theorem gridBit_mul_add (p : Grid g) (r : Fin g.height) (c : Fin g.width) :
    gridBit p (r * g.width + c) = p r c := by
  have hw := g.width_pos
  have hd : (r * g.width + c) / g.width = r := by
    rw [Nat.mul_comm, Nat.mul_add_div hw, Nat.div_eq_of_lt c.isLt, Nat.add_zero]
  have hm : (r * g.width + c) % g.width = c := by
    rw [Nat.mul_comm, Nat.mul_add_mod, Nat.mod_eq_of_lt c.isLt]
  simp only [gridBit]
  rw [dif_pos (by rw [hd]; exact r.isLt)]
  exact congr (congrArg p (Fin.ext hd)) (Fin.ext hm)

theorem place_lt (r : Fin g.height) (c : Fin g.width) : r * g.width + c < 8 * g.size := by
  rw [← g.width_mul_height, Nat.mul_comm g.width]
  calc r * g.width + c < r * g.width + g.width := by omega
    _ = (r + 1) * g.width := (Nat.succ_mul ..).symm
    _ ≤ g.height * g.width := Nat.mul_le_mul_right _ r.isLt

theorem bit_ofGrid (p : Grid g) {k : Nat} (hk : k < 8 * g.size) :
    (ofGrid p).bit k = gridBit p k := by
  have hd : k / 8 < g.size := by omega
  simp only [bit, ofGrid, Vector.getElem?_ofFn, hd, dite_true, Option.getD_some]
  rw [Byte.getMsbD_ofBits _ (Nat.mod_lt _ (by decide))]
  simp [Nat.div_add_mod]

@[simp] theorem grid_ofGrid (p : Grid g) : (ofGrid p).grid = p := by
  funext r c
  rw [grid, bit_ofGrid _ (place_lt r c), gridBit_mul_add]

theorem gridBit_grid (s : Screen g) {k : Nat} (hk : k < 8 * g.size) :
    gridBit s.grid k = s.bit k := by
  have hr : k / g.width < g.height := by
    rw [Nat.div_lt_iff_lt_mul g.width_pos, Nat.mul_comm, g.width_mul_height]
    exact hk
  simp only [gridBit, grid]
  rw [dif_pos hr, Nat.mul_comm, Nat.div_add_mod]

/-- Unpacking a screen and packing it gives the screen back. -/
@[simp] theorem ofGrid_grid (s : Screen g) : ofGrid s.grid = s := by
  refine Vector.ext fun i hi ↦ ?_
  refine BitVec.eq_of_getMsbD_eq fun j hj ↦ ?_
  have hk : 8 * i + j < 8 * g.size := by omega
  rw [ofGrid, Vector.getElem_ofFn, Byte.getMsbD_ofBits _ hj, gridBit_grid s hk, bit]
  simp [show (8 * i + j) / 8 = i by omega, show (8 * i + j) % 8 = j by omega, hi]

theorem eq_of_grid_eq {s t : Screen g} (h : s.grid = t.grid) : s = t := by
  rw [← ofGrid_grid s, h, ofGrid_grid]

theorem bit_blank (k : Nat) : (blank : Screen g).bit k = false := by
  have hzero : (blank : Screen g)[k / 8]?.getD 0 = 0 := by
    rw [blank, Vector.getElem?_replicate]
    split <;> rfl
  rw [bit, hzero]
  exact BitVec.getMsbD_zero

/-! ## Bytes

The bytes of a row stand side by side as its pixels do, an eighth as many. So a byte has a place
like a pixel, a row and a column of bytes.
-/

/-- A byte of a packed screen, counted from the left end of the first row. -/
def byte (s : Screen g) (k : Nat) : Byte := s[k]?.getD 0

theorem bit_eq (s : Screen g) (k : Nat) : s.bit k = (s.byte (k / 8)).getMsbD (k % 8) := rfl

theorem byte_of_lt (s : Screen g) {k : Nat} (hk : k < g.size) : s.byte k = s[k] := by
  rw [byte, Vector.getElem?_eq_getElem hk, Option.getD_some]

theorem byte_ofFn (f : Fin g.size → Byte) (k : Fin g.size) :
    byte (Vector.ofFn f : Screen g) k = f k :=
  (byte_of_lt _ k.isLt).trans (Vector.getElem_ofFn k.isLt)

theorem byte_of_le (s : Screen g) {k : Nat} (hk : g.size ≤ k) : s.byte k = 0 := by
  rw [byte, Vector.getElem?_eq_none hk, Option.getD_none]

theorem byte_place_lt {r k : Nat} (hr : r < g.height) (hk : k < g.rowBytes) :
    r * g.rowBytes + k < g.size := by
  calc r * g.rowBytes + k < r * g.rowBytes + g.rowBytes := by omega
    _ = (r + 1) * g.rowBytes := (Nat.succ_mul ..).symm
    _ ≤ g.height * g.rowBytes := Nat.mul_le_mul_right _ hr
    _ = g.size := Nat.mul_comm ..

theorem byte_place_div {r k : Nat} (hk : k < g.rowBytes) :
    (r * g.rowBytes + k) / g.rowBytes = r := by
  rw [Nat.mul_comm, Nat.mul_add_div g.rowBytes_pos, Nat.div_eq_of_lt hk, Nat.add_zero]

theorem byte_place_mod {r k : Nat} (hk : k < g.rowBytes) :
    (r * g.rowBytes + k) % g.rowBytes = k := by
  rw [Nat.mul_comm, Nat.mul_add_mod, Nat.mod_eq_of_lt hk]

theorem byte_place_inj {r r' k k' : Nat} (hk : k < g.rowBytes) (hk' : k' < g.rowBytes)
    (h : r * g.rowBytes + k = r' * g.rowBytes + k') : r = r' ∧ k = k' := by
  constructor
  · have hdiv := congrArg (· / g.rowBytes) h
    simpa only [byte_place_div hk, byte_place_div hk'] using hdiv
  · have hmod := congrArg (· % g.rowBytes) h
    simpa only [byte_place_mod hk, byte_place_mod hk'] using hmod

theorem exists_byte_place {k : Nat} (hk : k < g.size) :
    ∃ r < g.height, ∃ c < g.rowBytes, k = r * g.rowBytes + c := by
  refine ⟨k / g.rowBytes, ?_, k % g.rowBytes, Nat.mod_lt _ g.rowBytes_pos, ?_⟩
  · exact (Nat.div_lt_iff_lt_mul g.rowBytes_pos).mpr (by rwa [Nat.mul_comm])
  · rw [Nat.mul_comm, Nat.div_add_mod]

/-- The pixel at a row and a column is a bit of the byte at the same row and an eighth of the
column. -/
theorem grid_eq (s : Screen g) (r : Fin g.height) (c : Fin g.width) :
    s.grid r c = (s.byte (r * g.rowBytes + c / 8)).getMsbD (c % 8) := by
  have hrow : r * g.width = 8 * (r * g.rowBytes) := Nat.mul_left_comm ..
  rw [grid, bit_eq, hrow, Nat.mul_add_div (by decide), Nat.mul_add_mod]

end Screen

end ChipEight
