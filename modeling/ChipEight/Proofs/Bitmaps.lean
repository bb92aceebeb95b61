import ChipEight.Picture.Bitmap
import ChipEight.Proofs.Effect
import ChipEight.Session

/-!
# Unpacking a screen

A packed screen is read in two ways. Drawing works on its grid, `Screen.grid`, and packs the grid
again; pictures are made of a bitmap, for which the bits of a buffer are laid in one line and the
line is cut into rows. The grid is only there for screens, whose dimensions fit their bytes by their
type. A bitmap can be asked of any buffer and for any dimensions, so it has a check of its own.

## Rasters

Both are told by the pixel at a row and a column, and `Raster` says that some rows have the given
pixels and no others. Cutting a line of bits gives a raster (`raster_cut`), and so do the rows of a
grid (`Bitmap.raster_ofGrid`). Rasters with the same pixels are the same rows, which is how the two
ways of reading a screen are compared.
-/

namespace ChipEight

/-! ## Blocks of one length -/

section Blocks

variable {α β : Type} {f : α → List β} {n : Nat}

theorem length_flatMap_blocks (hf : ∀ a, (f a).length = n) (xs : List α) :
    (xs.flatMap f).length = n * xs.length := by
  induction xs with
  | nil => rfl
  | cons x xs ih =>
    rw [List.flatMap_cons, List.length_append, hf, ih, List.length_cons, Nat.mul_succ, Nat.add_comm]

/-- Where the elements of a block stand if all blocks have the same length. -/
theorem getElem?_flatMap_blocks (hn : 0 < n) (hf : ∀ a, (f a).length = n) (xs : List α) (k : Nat) :
    (xs.flatMap f)[k]? = xs[k / n]?.bind fun a ↦ (f a)[k % n]? := by
  induction xs generalizing k with
  | nil => rfl
  | cons x xs ih =>
    rw [List.flatMap_cons, List.getElem?_append, hf]
    by_cases hk : k < n
    · rw [if_pos hk, Nat.div_eq_of_lt hk, Nat.mod_eq_of_lt hk]
      rfl
    · obtain ⟨j, rfl⟩ : ∃ j, k = j + n := ⟨k - n, by omega⟩
      rw [if_neg hk, ih, Nat.add_sub_cancel, Nat.add_div_right _ hn, Nat.add_mod_right]
      rfl

end Blocks

/-! ## Rasters -/

/-- That some rows make up a picture of the given dimensions with the given pixels. -/
structure Raster {α : Type} (rows : List (List α)) (width height : Nat)
    (pixel : Nat → Nat → α) : Prop where
  /-- There are as many rows as the picture is high. -/
  length_rows : rows.length = height
  /-- Each of them is as long as the picture is wide. -/
  length_row : ∀ row ∈ rows, row.length = width
  /-- Every pixel stands at its row and its column. -/
  pixel_eq : ∀ r < height, ∀ c < width, (rows[r]?.bind fun row ↦ row[c]?) = some (pixel r c)

theorem row_place_lt {r c width height : Nat} (hr : r < height) (hc : c < width) :
    r * width + c < height * width := by
  calc r * width + c < r * width + width := by omega
    _ = (r + 1) * width := (Nat.succ_mul ..).symm
    _ ≤ height * width := Nat.mul_le_mul_right _ hr

namespace Raster

variable {α : Type} {rows rows' : List (List α)} {width height : Nat} {pixel pixel' : Nat → Nat → α}

theorem getElem?_row (h : Raster rows width height pixel) {r : Nat} (hr : r < height) :
    ∃ row, rows[r]? = some row ∧ row.length = width ∧ ∀ c < width, row[c]? = some (pixel r c) := by
  have hlt : r < rows.length := h.length_rows.symm ▸ hr
  have hrow : rows[r]? = some rows[r] := List.getElem?_eq_getElem hlt
  refine ⟨rows[r], hrow, h.length_row _ (List.getElem_mem hlt), ?_⟩
  intro c hc
  have hpixel := h.pixel_eq r hr c hc
  rwa [hrow, Option.bind_some] at hpixel

theorem rows_eq (h : Raster rows width height pixel) (h' : Raster rows' width height pixel')
    (heq : ∀ r < height, ∀ c < width, pixel r c = pixel' r c) : rows = rows' := by
  apply List.ext_getElem?
  intro r
  by_cases hr : r < height
  · obtain ⟨row, hrow, hlen, hpixel⟩ := h.getElem?_row hr
    obtain ⟨row', hrow', hlen', hpixel'⟩ := h'.getElem?_row hr
    have hsame : row = row' := by
      apply List.ext_getElem?
      intro c
      by_cases hc : c < width
      · rw [hpixel c hc, hpixel' c hc, heq r hr c hc]
      · rw [List.getElem?_eq_none (by omega), List.getElem?_eq_none (by omega)]
    rw [hrow, hrow', hsame]
  · have hle := Nat.not_lt.mp hr
    rw [List.getElem?_eq_none (h.length_rows ▸ hle), List.getElem?_eq_none (h'.length_rows ▸ hle)]

theorem pixel_unique (h : Raster rows width height pixel) (h' : Raster rows width height pixel')
    {r c : Nat} (hr : r < height) (hc : c < width) : pixel r c = pixel' r c :=
  Option.some.inj ((h.pixel_eq r hr c hc).symm.trans (h'.pixel_eq r hr c hc))

end Raster

/-! ## Flat lists -/

namespace Nested

variable {α : Type}

theorem surveyAll_one {s : Survey} (hdepth : s.depth = 1) (hsettled : s.settled = true)
    (xs : List α) : surveyAll 1 s (xs.map .one) = s := by
  have hmeet : s.meetElement 1 = s := by
    rw [Survey.meetElement, if_pos hdepth.symm, ← hsettled]
  induction xs with
  | nil => rfl
  | cons x xs ih => simp only [List.map_cons, surveyAll, survey, hmeet, ih]

theorem shape_many_one (xs : List α) : (many (xs.map one)).shape = .ok [xs.length] := by
  cases xs with
  | nil => rfl
  | cons x xs =>
    have hsurvey : (many ((x :: xs).map one)).survey 0 { depth := Survey.maxDepth } =
        { depth := 1, lengths := [xs.length + 1], settled := true } := by
      simp only [List.map_cons, survey, surveyAll]
      -- the first element has settled that there is one dimension
      show surveyAll 1 { depth := 1, lengths := [(one x :: xs.map one).length], settled := true }
        (xs.map one) = _
      rw [surveyAll_one rfl rfl, List.length_cons, List.length_map]
    rw [shape, hsurvey]
    rfl

theorem elements_many_one (xs : List α) : (many (xs.map one)).elements = xs := by
  rw [elements]
  induction xs with
  | nil => rfl
  | cons x xs ih => rw [List.map_cons, elementsAll, elements, ih, List.singleton_append]

end Nested

namespace Bitmap

variable {g : Geometry}

/-! ## Cutting a line into rows -/

theorem length_cut (width rows : Nat) (line : List Bool) : (cut width rows line).length = rows := by
  induction rows generalizing line with
  | zero => rfl
  | succ rows ih => rw [cut, List.length_cons, ih]

theorem getElem?_cut (width : Nat) {rows r : Nat} (line : List Bool) (hr : r < rows) :
    (cut width rows line)[r]? = some ((line.drop (r * width)).take width) := by
  induction rows generalizing line r with
  | zero => exact absurd hr (Nat.not_lt_zero r)
  | succ rows ih =>
    cases r with
    | zero => rw [Nat.zero_mul, List.drop_zero, cut, List.getElem?_cons_zero]
    | succ r =>
      rw [cut, List.getElem?_cons_succ, ih _ (Nat.lt_of_succ_lt_succ hr), List.drop_drop,
        Nat.succ_mul, Nat.add_comm]

theorem raster_cut {width height : Nat} {bits : List Bool} {pixel : Nat → Bool}
    (hlen : bits.length = height * width)
    (hbits : ∀ k < height * width, bits[k]? = some (pixel k)) :
    Raster (cut width height bits) width height fun r c ↦ pixel (r * width + c) where
  length_rows := length_cut ..
  length_row row hrow := by
    obtain ⟨r, hr⟩ := List.mem_iff_getElem?.mp hrow
    have hlt : r < height := by
      obtain ⟨hlt, -⟩ := List.getElem?_eq_some_iff.mp hr
      rwa [length_cut] at hlt
    have hle : (r + 1) * width ≤ height * width := Nat.mul_le_mul_right _ hlt
    rw [getElem?_cut width bits hlt] at hr
    rw [← Option.some.inj hr, List.length_take, List.length_drop, hlen]
    rw [Nat.succ_mul] at hle
    omega
  pixel_eq r hr c hc := by
    rw [getElem?_cut width bits hr, Option.bind_some, List.getElem?_take, if_pos hc,
      List.getElem?_drop]
    exact hbits _ (row_place_lt hr hc)

/-! ## The bits of a buffer -/

/-- A bit of a buffer, counted from the most significant bit of its first byte. -/
def bitAt (buffer : List Byte) (k : Nat) : Bool := (buffer[k / 8]?.getD 0).getMsbD (k % 8)

theorem bitAt_toList (s : Screen g) (k : Nat) : bitAt s.toList k = s.bit k := by
  rw [bitAt, Vector.getElem?_toList, Screen.bit]

theorem getElem?_flatMap_bits (buffer : List Byte) {k : Nat} (hk : k < 8 * buffer.length) :
    (buffer.flatMap Byte.bits)[k]? = some (bitAt buffer k) := by
  have hdiv : k / 8 < buffer.length := by omega
  have hmod : k % 8 < 8 := Nat.mod_lt _ (by decide)
  rw [getElem?_flatMap_blocks (by decide) Byte.length_bits, bitAt, List.getElem?_eq_getElem hdiv,
    Option.bind_some, Option.getD_some, Byte.bits, List.getElem?_map, List.getElem?_range hmod]
  rfl

/-- A bitmap shows the bits of the buffer row after row. -/
theorem raster_unpack {buffer : List Byte} {width height : Nat}
    (h : 8 * buffer.length = width * height) :
    Raster (unpack buffer width height).rows width height
      fun r c ↦ bitAt buffer (r * width + c) := by
  rw [Nat.mul_comm width] at h
  apply raster_cut
  · rw [length_flatMap_blocks Byte.length_bits, h]
  · intro k hk
    exact getElem?_flatMap_bits buffer (h ▸ hk)

/-! ## Bitmaps of grids -/

def ofGrid (p : Grid g) : Bitmap where
  width := g.width
  rows := List.ofFn fun r ↦ List.ofFn (p r)

theorem raster_ofGrid (p : Grid g) :
    Raster (ofGrid p).rows g.width g.height fun r c ↦ Screen.gridBit p (r * g.width + c) where
  length_rows := List.length_ofFn
  length_row row hrow := by
    obtain ⟨r, rfl⟩ := List.mem_ofFn.mp hrow
    exact List.length_ofFn
  pixel_eq r hr c hc := by
    rw [ofGrid, List.getElem?_ofFn, dif_pos hr, Option.bind_some, List.getElem?_ofFn, dif_pos hc]
    exact congrArg some (Screen.gridBit_mul_add p ⟨r, hr⟩ ⟨c, hc⟩).symm

theorem eight_mul_length_toList (s : Screen g) : 8 * s.toList.length = g.width * g.height := by
  rw [s.length_toList, g.width_mul_height]

/-- **Both ways of reading a screen agree.** -/
theorem unpack_toList (s : Screen g) : unpack s.toList g.width g.height = ofGrid s.grid := by
  have hrows : (unpack s.toList g.width g.height).rows = (ofGrid s.grid).rows := by
    apply (raster_unpack (eight_mul_length_toList s)).rows_eq (raster_ofGrid s.grid)
    intro r hr c hc
    rw [bitAt_toList, Screen.gridBit_grid s (Screen.place_lt ⟨r, hr⟩ ⟨c, hc⟩)]
  exact congrArg (Bitmap.mk g.width) hrows

/-! ## The check of the size -/

variable {buffer : List Byte} {width height : Int}

theorem checkPacked_of_pos (length : Nat) (hw : 0 < width) (hh : 0 < height) :
    checkPacked length width height =
      if length * 8 = width * height then .ok () else .error (.size length width height) := by
  rw [checkPacked]
  by_cases hsize : (length : Int) * 8 = width * height
  · have hpos : 0 < width * height := Int.mul_pos hw hh
    have hempty : ¬(length = 0 ∧ !(fitsSigned 64 width && fitsSigned 64 height)) := by omega
    have hboth : ¬(width < 0 ∧ height < 0) := by omega
    have hone : ¬(width < 0 ∨ height < 0) := by omega
    rw [if_neg (not_not_intro hsize), if_neg hempty, if_neg hboth, if_neg hone, if_pos hsize]
  · rw [if_pos hsize, if_neg hsize]

theorem ofPacked_of_pos (buffer : List Byte) (hw : 0 < width) (hh : 0 < height) :
    ofPacked buffer width height =
      if buffer.length * 8 = width * height then .ok (unpack buffer width.toNat height.toNat)
      else .error (.size buffer.length width height) := by
  rw [ofPacked, checkPacked_of_pos _ hw hh]
  split <;> rfl

theorem ofPacked_eq_ok_iff {w h : Nat} (hw : 0 < w) (hh : 0 < h) {b : Bitmap} :
    ofPacked buffer w h = .ok b ↔ 8 * buffer.length = w * h ∧ b = unpack buffer w h := by
  have hcast : ((buffer.length : Int) * 8 = (w : Int) * h) ↔ 8 * buffer.length = w * h := by
    rw [Nat.mul_comm 8]
    exact_mod_cast Iff.rfl
  rw [ofPacked_of_pos _ (Int.natCast_pos.mpr hw) (Int.natCast_pos.mpr hh), Int.toNat_natCast,
    Int.toNat_natCast]
  by_cases hsize : (buffer.length : Int) * 8 = (w : Int) * h
  · rw [if_pos hsize, Except.ok.injEq, eq_comm]
    exact (and_iff_right (hcast.mp hsize)).symm
  · rw [if_neg hsize]
    simp only [reduceCtorEq, mt hcast.mpr hsize, false_and]

theorem ofPacked_toList (s : Screen g) :
    ofPacked s.toList g.width g.height = .ok (ofGrid s.grid) :=
  (ofPacked_eq_ok_iff g.width_pos g.height_pos).mpr
    ⟨eight_mul_length_toList s, (unpack_toList s).symm⟩

/-! ## Buffers as lists of numbers -/

def numbers (buffer : List Byte) : Nested Int :=
  .many ((buffer.map fun b ↦ (b.toNat : Int)).map .one)

theorem exactCell_toNat (b : Byte) : exactCell 8 b.toNat = .ok b := by
  have hcell : BitVec.ofInt 8 b.toNat = b := by rw [BitVec.ofInt_natCast, BitVec.ofNat_toNat,
    BitVec.setWidth_eq]
  have hfits : fitsSigned 64 b.toNat = true := fitsSigned_64_of_lt (by have := b.isLt; omega)
  rw [exactCell, hcell]
  simp [hfits]

theorem bytes_toNat (buffer : List Byte) :
    bytes (buffer.map fun b ↦ (b.toNat : Int)) = .ok buffer := by
  rw [bytes]
  induction buffer with
  | nil => rfl
  | cons b buffer ih =>
    rw [List.map_cons, List.mapM_cons, ih, exactCell_toNat]
    rfl

theorem nestedBytes_numbers (buffer : List Byte) : nestedBytes (numbers buffer) = .ok buffer := by
  rw [nestedBytes, numbers, Nested.shape_many_one, Nested.elements_many_one]
  exact bytes_toNat buffer

/-! ## Packing and unpacking -/

/-- A pixel is a bit of the byte in its row and an eighth of its column, counted from the highest
bit down. -/
theorem exists_byte_of_pixel (s : Screen g) (r : Fin g.height) (c : Fin g.width) :
    ∃ b : Byte, s[(r : Nat) * (g.width / 8) + c / 8]? = some b ∧
      s.grid r c = b.getLsbD (7 - c % 8) := by
  have hrow : g.width / 8 = g.rowBytes := Nat.mul_div_cancel_left _ (by decide)
  have hcolumn : (c : Nat) / 8 < g.rowBytes := Nat.div_lt_of_lt_mul c.isLt
  have hlt := Screen.byte_place_lt r.isLt hcolumn
  have hmod : (c : Nat) % 8 < 8 := Nat.mod_lt _ (by decide)
  rw [hrow]
  refine ⟨_, Vector.getElem?_eq_getElem hlt, ?_⟩
  rw [Screen.grid_eq, Screen.byte_of_lt s hlt, BitVec.getMsbD_eq_getLsbD, decide_eq_true hmod,
    Bool.true_and]

theorem ofPacked_eq_error_iff (hw : 0 < width) (hh : 0 < height) {e : PictureError} :
    ofPacked buffer width height = .error e ↔
      8 * buffer.length ≠ width * height ∧ e = .size buffer.length width height := by
  rw [ofPacked_of_pos _ hw hh, Int.mul_comm 8]
  by_cases hsize : (buffer.length : Int) * 8 = width * height
  · rw [if_pos hsize]
    simp only [reduceCtorEq, ne_eq, hsize, not_true_eq_false, false_and]
  · rw [if_neg hsize, Except.error.injEq, eq_comm]
    exact (and_iff_right hsize).symm

theorem exists_ofPacked (hw : 0 < width) (hh : 0 < height)
    (hsize : 8 * buffer.length = width * height) :
    ∃ b, ofPacked buffer width height = .ok b ∧ b.width = width ∧
      Raster b.rows width.toNat height.toNat
        fun r c ↦ bitAt buffer (r * width.toNat + c) := by
  obtain ⟨w, rfl⟩ := Int.eq_ofNat_of_zero_le (Int.le_of_lt hw)
  obtain ⟨h, rfl⟩ := Int.eq_ofNat_of_zero_le (Int.le_of_lt hh)
  have hbits : 8 * buffer.length = w * h := by exact_mod_cast hsize
  have hok := (ofPacked_eq_ok_iff (Int.natCast_pos.mp hw) (Int.natCast_pos.mp hh)).mpr ⟨hbits, rfl⟩
  exact ⟨_, hok, rfl, raster_unpack hbits⟩

/-- **Packing and unpacking are inverse to each other, and both ways to unpack agree.** A pixel of a
screen is the bit of its byte at its place from the left. The bitmap of a screen, given as bytes or
as a list of numbers, is that of its grid; packing the grid gives the screen back, and unpacking a
grid that was packed gives the grid back. A buffer is unpacked to a bitmap of any dimensions that
make up as many pixels as it has bits, and is refused otherwise. So every screen that a machine
reaches can be unpacked. -/
theorem unpacking_undoes_packing :
    (∀ (g : Geometry) (s : Screen g),
      (∀ (r : Fin g.height) (c : Fin g.width), ∃ b : Byte,
        s[(r : Nat) * (g.width / 8) + c / 8]? = some b ∧ s.grid r c = b.getLsbD (7 - c % 8)) ∧
      ofPacked s.toList g.width g.height = .ok (ofGrid s.grid) ∧
      Screen.ofGrid s.grid = s) ∧
    (∀ (g : Geometry) (p : Grid g), (Screen.ofGrid p).grid = p ∧
      ofPacked (Screen.ofGrid p).toList g.width g.height = .ok (ofGrid p)) ∧
    (∀ buffer : List Byte, nestedBytes (numbers buffer) = .ok buffer) ∧
    (∀ (buffer : List Byte) (width height : Int), 0 < width → 0 < height →
      (∀ e, ofPacked buffer width height = .error e ↔
        8 * buffer.length ≠ width * height ∧ e = .size buffer.length width height) ∧
      (8 * buffer.length = width * height →
        ∃ b, ofPacked buffer width height = .ok b ∧ b.width = width ∧
          Raster b.rows width.toNat height.toNat
            fun r c ↦ bitAt buffer (r * width.toNat + c))) ∧
    ∀ (c : Config) (logger : Logger) (commands : List Command),
      let s := ((Machine.new c logger).after commands).state
      ofPacked s.screen.toList c.geometry.width c.geometry.height =
        .ok (ofGrid s.screen.grid) := by
  refine ⟨?screens, ?grids, nestedBytes_numbers, ?buffers, ?machines⟩
  case screens =>
    intro g s
    exact ⟨exists_byte_of_pixel s, ofPacked_toList s, s.ofGrid_grid⟩
  case grids =>
    intro g p
    have hgrid := Screen.grid_ofGrid p
    refine ⟨hgrid, ?_⟩
    rw [ofPacked_toList, hgrid]
  case buffers =>
    intro buffer width height hw hh
    exact ⟨fun e ↦ ofPacked_eq_error_iff hw hh, exists_ofPacked hw hh⟩
  case machines =>
    intro c logger commands
    exact ofPacked_toList _

/-- Three bytes as two rows of twelve pixels, and a byte that is too few. -/
theorem unpacking_undoes_packing_of_half_bytes :
    (∃ b, ofPacked [0xF0, 0x0F, 0xA5] 12 2 = .ok b ∧
      Raster b.rows 12 2 fun r c ↦ bitAt [0xF0, 0x0F, 0xA5] (r * 12 + c)) ∧
    ofPacked [0xF0] 12 2 = .error (.size 1 12 2) := by
  obtain ⟨-, -, -, hbuffers, -⟩ := unpacking_undoes_packing
  constructor
  · obtain ⟨b, hb, -, hraster⟩ :=
      (hbuffers [0xF0, 0x0F, 0xA5] 12 2 (by decide) (by decide)).2 (by decide)
    exact ⟨b, hb, hraster⟩
  · exact ((hbuffers [0xF0] 12 2 (by decide) (by decide)).1 _).mpr ⟨by decide, rfl⟩

end Bitmap

end ChipEight
