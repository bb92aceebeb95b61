import ChipEight.Picture.FileFormat
import ChipEight.Proofs.Bitmaps

/-!
# Pictures of a screen

A picture is made in three steps: a buffer is unpacked to rows of pixels, every pixel becomes a
colour, and every colour and then every row is repeated. Each step turns a raster into a raster, so
that the picture is told by its pixels again, and `Picture.Shows` says which they are.

## What there is room for

Numbers of bytes are bounded, and the scale of a picture is not. `Extent.HasRoom` is all that is
asked for: a picture whose bytes are a signed 64-bit number has sides that can be counted and a
scale that is such a number as well, and if there is memory for so many bytes and for fewer, there
is for everything that is made on the way to it.

How much memory there is and what the library of image files takes are parameters, and nothing is
assumed of them beyond what a statement says.
-/

namespace ChipEight

/-- The side of the square that a pixel becomes. A scale below two leaves pixels as they are. -/
def Picture.side (scale : Int) : Nat := max scale.toNat 1

theorem Picture.side_pos (scale : Int) : 0 < Picture.side scale :=
  Nat.lt_of_lt_of_le Nat.zero_lt_one (Nat.le_max_right ..)

/-! ## Rasters of colours -/

section Stretch

variable {α β : Type} {rows : List (List α)} {width height n : Nat} {pixel : Nat → Nat → α}

theorem Picture.length_stretch (n : Nat) (xs : List α) :
    (Picture.stretch n xs).length = n * xs.length :=
  length_flatMap_blocks (fun _ ↦ List.length_replicate) xs

theorem Picture.getElem?_stretch (hn : 0 < n) (xs : List α) (k : Nat) :
    (Picture.stretch n xs)[k]? = xs[k / n]? := by
  rw [Picture.stretch, getElem?_flatMap_blocks hn fun _ ↦ List.length_replicate]
  cases xs[k / n]? with
  | none => rfl
  | some x => rw [Option.bind_some, List.getElem?_replicate, if_pos (Nat.mod_lt _ hn)]

theorem Raster.map (h : Raster rows width height pixel) (f : α → β) :
    Raster (rows.map fun row ↦ row.map f) width height fun r c ↦ f (pixel r c) where
  length_rows := by rw [List.length_map, h.length_rows]
  length_row row hrow := by
    obtain ⟨row', hrow', rfl⟩ := List.mem_map.mp hrow
    rw [List.length_map, h.length_row row' hrow']
  pixel_eq r hr c hc := by
    obtain ⟨row, hrow, -, hpixel⟩ := h.getElem?_row hr
    rw [List.getElem?_map, hrow, Option.map_some, Option.bind_some, List.getElem?_map, hpixel c hc]
    rfl

/-- Repeating every pixel and every row gives each pixel a square. -/
theorem Raster.stretch (h : Raster rows width height pixel) (hn : 0 < n) :
    Raster (Picture.stretch n (rows.map (Picture.stretch n))) (width * n) (height * n)
      fun r c ↦ pixel (r / n) (c / n) where
  length_rows := by rw [Picture.length_stretch, List.length_map, h.length_rows, Nat.mul_comm]
  length_row row hrow := by
    obtain ⟨row', hrow', hmem⟩ := List.mem_flatMap.mp hrow
    obtain ⟨row'', hrow'', rfl⟩ := List.mem_map.mp hrow'
    rw [List.eq_of_mem_replicate hmem, Picture.length_stretch, h.length_row row'' hrow'',
      Nat.mul_comm]
  pixel_eq r hr c hc := by
    obtain ⟨row, hrow, -, hpixel⟩ := h.getElem?_row (Nat.div_lt_of_lt_mul (Nat.mul_comm .. ▸ hr))
    rw [Picture.getElem?_stretch hn, List.getElem?_map, hrow, Option.map_some, Option.bind_some,
      Picture.getElem?_stretch hn, hpixel _ (Nat.div_lt_of_lt_mul (Nat.mul_comm .. ▸ hc))]

end Stretch

namespace Picture

/-- That a picture shows the bits of a buffer: rows of the given width, each bit a square in one of
the two colours. -/
structure Shows (q : Picture) (buffer : List Byte) (width height side : Nat) (p : Palette) :
    Prop where
  /-- The width of the picture. -/
  width_eq : q.width = width * side
  /-- The pixels of the picture. -/
  raster : Raster q.rows (width * side) (height * side) fun r c ↦
    if Bitmap.bitAt buffer (r / side * width + c / side) then p.on else p.off

variable {q q' : Picture} {buffer buffer' : List Byte} {width height side : Nat} {p : Palette}

theorem shows_paint (h : 8 * buffer.length = width * height) (scale : Int) (p : Palette) :
    (paint (.unpack buffer width height) scale p).Shows buffer width height (Picture.side scale) p
    where
  width_eq := Nat.mul_comm ..
  raster := by
    have hraster := ((Bitmap.raster_unpack h).map fun lit ↦ if lit then p.on else p.off).stretch
      (side_pos scale)
    rwa [List.map_map] at hraster

/-- Two colours tell the bits of a buffer. -/
theorem Shows.bitAt_eq (h : q.Shows buffer width height side p)
    (h' : q.Shows buffer' width height side p) (hside : 0 < side) (hp : p.on ≠ p.off) {k : Nat}
    (hk : k < height * width) : Bitmap.bitAt buffer k = Bitmap.bitAt buffer' k := by
  have hw : 0 < width := Nat.pos_of_ne_zero fun hzero ↦ by
    rw [hzero, Nat.mul_zero] at hk
    cases hk
  -- the upper left corner of the square of the bit
  have hrow : k / width * side < height * side :=
    Nat.mul_lt_mul_of_pos_right (Nat.div_lt_of_lt_mul (Nat.mul_comm .. ▸ hk)) hside
  have hcolumn : k % width * side < width * side :=
    Nat.mul_lt_mul_of_pos_right (Nat.mod_lt _ hw) hside
  have hpixel := h.raster.pixel_unique h'.raster hrow hcolumn
  rw [Nat.mul_div_cancel _ hside, Nat.mul_div_cancel _ hside, Nat.div_add_mod'] at hpixel
  cases hb : Bitmap.bitAt buffer k <;> cases hb' : Bitmap.bitAt buffer' k
  · rfl
  · simp [hb, hb', hp.symm] at hpixel
  · simp [hb, hb', hp] at hpixel
  · rfl

end Picture

theorem Bitmap.eq_of_bitAt_eq {buffer buffer' : List Byte} (hlen : buffer.length = buffer'.length)
    (h : ∀ k < 8 * buffer.length, bitAt buffer k = bitAt buffer' k) : buffer = buffer' := by
  refine List.ext_getElem hlen fun i hi hi' ↦ BitVec.eq_of_getMsbD_eq fun j hj ↦ ?_
  have hbit := h (8 * i + j) (by omega)
  have hdiv : (8 * i + j) / 8 = i := by omega
  have hmod : (8 * i + j) % 8 = j := by omega
  rwa [bitAt, bitAt, hdiv, hmod, List.getElem?_eq_getElem hi, List.getElem?_eq_getElem hi'] at hbit

/-! ## Extents with room -/

namespace Extent

variable {room : Nat → Bool} {rows columns : Nat}

/-- That the bytes of a picture can be counted, and that there is memory for pictures of so many
bytes and of fewer. -/
structure HasRoom (room : Nat → Bool) (rows columns : Nat) : Prop where
  byteCount_lt : PictureError.byteCount rows columns < 0x8000000000000000
  room_of_le : ∀ n ≤ PictureError.byteCount rows columns, room n = true

theorem HasRoom.mono {rows' columns' : Nat} (h : HasRoom room rows' columns')
    (hrows : rows ≤ rows') (hcolumns : columns ≤ columns') : HasRoom room rows columns where
  byteCount_lt :=
    Nat.lt_of_le_of_lt (Nat.mul_le_mul_right 3 (Nat.mul_le_mul hrows hcolumns)) h.byteCount_lt
  room_of_le n hn :=
    h.room_of_le n (Nat.le_trans hn (Nat.mul_le_mul_right 3 (Nat.mul_le_mul hrows hcolumns)))

theorem HasRoom.rows_lt (h : HasRoom room rows columns) (hcolumns : 0 < columns) :
    rows < 0x8000000000000000 :=
  calc rows ≤ rows * columns := Nat.le_mul_of_pos_right _ hcolumns
    _ ≤ rows * columns * 3 := Nat.le_mul_of_pos_right _ (by decide)
    _ < 0x8000000000000000 := h.byteCount_lt

theorem HasRoom.columns_lt (h : HasRoom room rows columns) (hrows : 0 < rows) :
    columns < 0x8000000000000000 :=
  calc columns ≤ rows * columns := Nat.le_mul_of_pos_left _ hrows
    _ ≤ rows * columns * 3 := Nat.le_mul_of_pos_right _ (by decide)
    _ < 0x8000000000000000 := h.byteCount_lt

theorem around_of_lt {n : Nat} (h : n < 0x8000000000000000) : around n = n :=
  beq_iff_eq.mp (fitsSigned_64_of_lt h)

theorem check_of_hasRoom (hrows : 0 < rows) (hcolumns : 0 < columns)
    (h : HasRoom room rows columns) : check room { rows, columns } = .ok () := by
  have hr : counted rows = rows := by rw [counted, if_neg (by omega), Int.toNat_natCast]
  have hc : counted columns = columns := by rw [counted, if_neg (by omega), Int.toNat_natCast]
  have hneg : ¬((rows : Int) < 0 ∨ (columns : Int) < 0) := by omega
  have hfits : fitsSigned 64 (PictureError.byteCount rows columns) = true :=
    fitsSigned_64_of_lt h.byteCount_lt
  have hroom : room (PictureError.byteCount rows columns) = true :=
    h.room_of_le _ (Nat.le_refl _)
  simp only [check, hr, hc, hneg, hfits, hroom, Bool.not_true, Bool.and_false, Bool.false_eq_true,
    if_false]

/-- The extent of a picture in which every pixel is a square of the given side. -/
def ofSquares (width height side : Nat) : Extent where
  rows := (height * side : Nat)
  columns := (width * side : Nat)

theorem enlarge_of_hasRoom (hrows : 0 < rows) (hcolumns : 0 < columns) {scale : Int}
    (h : HasRoom room (rows * Picture.side scale) (columns * Picture.side scale)) :
    enlarge room { rows, columns } scale = .ok (ofSquares columns rows (Picture.side scale)) := by
  have hside := Picture.side_pos scale
  have hr : rows ≤ rows * Picture.side scale := Nat.le_mul_of_pos_right _ hside
  have hc : columns ≤ columns * Picture.side scale := Nat.le_mul_of_pos_right _ hside
  have hfirst := check_of_hasRoom hrows hcolumns (h.mono hr hc)
  by_cases hscale : scale ≤ 1
  · have hone : Picture.side scale = 1 := by
      rw [Picture.side]
      omega
    simp only [enlarge, hfirst, hscale, if_true, ofSquares, hone, Nat.mul_one]
    rfl
  · obtain ⟨n, hn⟩ : ∃ n : Nat, scale = n := Int.eq_ofNat_of_zero_le (by omega)
    have hsame : Picture.side scale = n := by
      rw [Picture.side]
      omega
    rw [hsame] at h hr hc hside ⊢
    subst hn
    -- each side is counted when it is enlarged, and the scale before that
    have htall := check_of_hasRoom (Nat.mul_pos hrows hside) hcolumns (h.mono (Nat.le_refl _) hc)
    have hwide := check_of_hasRoom (Nat.mul_pos hrows hside) (Nat.mul_pos hcolumns hside) h
    have hrowsLt := h.rows_lt (Nat.mul_pos hcolumns hside)
    have hcountRows : around ((n : Int) * rows) = (rows * n : Nat) := by
      rw [Int.mul_comm, ← Int.natCast_mul]
      exact around_of_lt hrowsLt
    have hcountColumns : around ((n : Int) * columns) = (columns * n : Nat) := by
      rw [Int.mul_comm, ← Int.natCast_mul]
      exact around_of_lt (h.columns_lt (Nat.mul_pos hrows hside))
    have hfits : fitsSigned 64 n = true :=
      fitsSigned_64_of_lt (Nat.lt_of_le_of_lt (Nat.le_mul_of_pos_left _ hrows) hrowsLt)
    simp only [enlarge, hfirst, hscale, if_false, hfits, Bool.not_true, Bool.false_eq_true,
      hcountRows, hcountColumns, htall, hwide]
    rfl

theorem enlarge_of_le (hrows : 0 < rows) (hcolumns : 0 < columns) (h : HasRoom room rows columns)
    {scale : Int} (hscale : 0x8000000000000000 ≤ scale) :
    enlarge room { rows, columns } scale = .error (.range .int64) := by
  have hfits : fitsSigned 64 scale = false := by
    rw [fitsSigned, beq_eq_false_iff_ne]
    have := (BitVec.ofInt 64 scale).toInt_lt
    omega
  have hnot : ¬scale ≤ 1 := by omega
  simp only [enlarge, check_of_hasRoom hrows hcolumns h, hnot, if_false, hfits, Bool.not_false]
  rfl

end Extent

/-! ## Making pictures -/

theorem bind_eq_ok_iff {ε α β : Type} {x : Except ε α} {f : α → Except ε β} {b : β} :
    (x >>= f) = .ok b ↔ ∃ a, x = .ok a ∧ f a = .ok b := by
  cases x <;> simp [bind, Except.bind]

def Colour.components (c : Colour) : List Int :=
  [c.red, c.green, c.blue].map fun b ↦ (b.toNat : Int)

theorem Colour.ofComponents_components (c : Colour) (pixels : Nat) :
    ofComponents c.components pixels = .ok c := by
  rw [ofComponents, components, Bitmap.bytes_toNat]
  rfl

theorem Palette.ofComponents_components (b : Bitmap) (p : Palette) :
    ofComponents b p.on.components p.off.components = .ok p := by
  rw [ofComponents, Colour.ofComponents_components, Colour.ofComponents_components]
  rfl

namespace Picture

variable {room : Nat → Bool} {buffer buffer' : List Byte} {width height : Nat} {scale : Int}
  {p : Palette} {q : Picture}

theorem eq_paint_of_make {b : Bitmap} (h : make room b scale p = .ok q) : q = paint b scale p := by
  rw [make, bind_eq_ok_iff] at h
  obtain ⟨-, -, hq⟩ := h
  exact (Except.ok.inj hq).symm

theorem make_of_hasRoom (hw : 0 < width) (hh : 0 < height)
    (hsize : 8 * buffer.length = width * height)
    (hroom : Extent.HasRoom room (height * Picture.side scale) (width * Picture.side scale)) :
    make room (.unpack buffer width height) scale p =
      .ok (paint (.unpack buffer width height) scale p) := by
  have hrows := (Bitmap.raster_unpack hsize).length_rows
  have hcolumns : (Bitmap.unpack buffer width height).width = width := rfl
  rw [make, hrows, hcolumns, Extent.enlarge_of_hasRoom hh hw hroom]
  rfl

theorem make_of_le (hw : 0 < width) (hh : 0 < height) (hsize : 8 * buffer.length = width * height)
    (hroom : Extent.HasRoom room height width) (hscale : 0x8000000000000000 ≤ scale) :
    make room (.unpack buffer width height) scale p = .error (.range .int64) := by
  have hrows := (Bitmap.raster_unpack hsize).length_rows
  have hcolumns : (Bitmap.unpack buffer width height).width = width := rfl
  rw [make, hrows, hcolumns, Extent.enlarge_of_le hh hw hroom hscale]
  rfl

theorem eq_of_make_eq (hw : 0 < width) (hh : 0 < height) (hp : p.on ≠ p.off) {b b' : Bitmap}
    (hb : Bitmap.ofPacked buffer width height = .ok b)
    (hb' : Bitmap.ofPacked buffer' width height = .ok b')
    (hq : make room b scale p = .ok q) (hq' : make room b' scale p = .ok q) : buffer = buffer' := by
  obtain ⟨hsize, rfl⟩ := (Bitmap.ofPacked_eq_ok_iff hw hh).mp hb
  obtain ⟨hsize', rfl⟩ := (Bitmap.ofPacked_eq_ok_iff hw hh).mp hb'
  have hshows := shows_paint hsize scale p
  have hshows' := shows_paint hsize' scale p
  rw [← eq_paint_of_make hq] at hshows
  rw [← eq_paint_of_make hq'] at hshows'
  -- buffers of one length are the same if their pictures show the same bits
  refine Bitmap.eq_of_bitAt_eq (by omega) fun k hk ↦ ?_
  exact hshows.bitAt_eq hshows' (side_pos scale) hp (by rwa [Nat.mul_comm, ← hsize])

end Picture

/-! ## Saving pictures -/

theorem Scheme.ofName?_name (c : Scheme) : ofName? c.name = some c := by cases c <;> decide

theorem Scheme.ofName?_eq_none {name : String} (h : ∀ c : Scheme, c.name ≠ name) :
    ofName? name = none := by
  rw [ofName?, List.find?_eq_none]
  intro c _
  simpa using h c

namespace Screenshot

variable {host : Host} {file : String} {screen : Nested Int} {buffer : List Byte}

theorem mapError_eq_ok_iff {ε ε' α : Type} {x : Except ε α} {f : ε → ε'} {a : α} :
    x.mapError f = .ok a ↔ x = .ok a := by
  cases x with
  | ok b => exact ⟨fun h ↦ congrArg _ (Except.ok.inj h), fun h ↦ congrArg _ (Except.ok.inj h)⟩
  | error e =>
    constructor
    · intro h
      cases h
    · intro h
      cases h

theorem save_eq_ok_iff {width height scale : Int} {p : Palette} {shot : Screenshot} :
    save host file buffer width height scale p = .ok shot ↔
      Bitmap.checkPacked buffer.length width height = .ok () ∧
      ∃ e, Extent.enlarge host.room { rows := height, columns := width } scale = .ok e ∧
        host.library.accepts e = .ok () ∧ host.library.formatOf file = .ok shot.format ∧
        host.checkWritable file = .ok () ∧ host.library.encodes shot.format e = .ok () ∧
        shot.picture = Picture.paint (.unpack buffer width.toNat height.toNat) scale p := by
  simp only [save, bind_eq_ok_iff, mapError_eq_ok_iff]
  constructor
  · rintro ⟨⟨⟩, hcheck, e, henlarge, ⟨⟩, hsides, format, hformat, ⟨⟩, hfile, ⟨⟩, hencodes, hshot⟩
    obtain rfl := Except.ok.inj hshot
    exact ⟨hcheck, e, henlarge, hsides, hformat, hfile, hencodes, rfl⟩
  · rintro ⟨hcheck, e, henlarge, hsides, hformat, hfile, hencodes, hpicture⟩
    refine ⟨(), hcheck, e, henlarge, (), hsides, _, hformat, (), hfile, (), hencodes, ?_⟩
    rw [← hpicture]
    rfl

theorem save_of_hasRoom {width height : Nat} {scale : Int} {format : String} (hw : 0 < width)
    (hh : 0 < height) (hsize : 8 * buffer.length = width * height)
    (hroom : Extent.HasRoom host.room (height * Picture.side scale) (width * Picture.side scale))
    (hsides : host.library.accepts (.ofSquares width height (Picture.side scale)) = .ok ())
    (hformat : host.library.formatOf file = .ok format) (hfile : host.checkWritable file = .ok ())
    (hencodes :
      host.library.encodes format (.ofSquares width height (Picture.side scale)) = .ok ())
    (p : Palette) :
    save host file buffer width height scale p =
      .ok { format, picture := Picture.paint (.unpack buffer width height) scale p } := by
  have hcheck : Bitmap.checkPacked buffer.length width height = .ok () := by
    rw [Bitmap.checkPacked_of_pos _ (Int.natCast_pos.mpr hw) (Int.natCast_pos.mpr hh)]
    exact if_pos (by rw [← Int.natCast_mul, ← hsize]; omega)
  exact save_eq_ok_iff.mpr ⟨hcheck, _, Extent.enlarge_of_hasRoom hh hw hroom, hsides, hformat,
    hfile, hencodes, rfl⟩

theorem saveNumbers_name (hscreen : Bitmap.nestedBytes screen = .ok buffer)
    (width height scale : Int) (c : Scheme) :
    saveNumbers host file screen width height scale c.name =
      save host file buffer width height scale c.palette := by
  simp only [saveNumbers, Scheme.ofName?_name, hscreen]
  rfl

theorem saveNumbers_of_unknown {name : String} (h : ∀ c : Scheme, c.name ≠ name)
    (width height scale : Int) :
    saveNumbers host file screen width height scale name = .error (.scheme name) := by
  rw [saveNumbers, Scheme.ofName?_eq_none h]
  rfl

theorem save_of_ne {width height : Int} (h : (buffer.length : Int) * 8 ≠ width * height)
    (scale : Int) (p : Palette) :
    save host file buffer width height scale p = .error (.size buffer.length width height) := by
  rw [save, Bitmap.checkPacked, if_pos h]
  rfl

end Screenshot

/-- **Pictures show screens.** A screen of the right size is unpacked, and its picture in any two
colours and at any scale has a square for each pixel, in the one colour if its bit is set and in the
other colour if not. There is a picture whenever there is room for it, and none at a scale that is
no signed 64-bit number. Different screens have different pictures if the colours are different.
What is saved of a screen in the colours of a scheme is this picture, and it is saved unless memory
or the library of image files or the file system refuses it. A name that no scheme has is refused,
and so is a screen of another size, before a file is written. -/
theorem pictures_show_screens :
    (∀ (buffer : List Byte) (width height : Nat), 0 < width → 0 < height →
      8 * buffer.length = width * height →
      ∃ b, Bitmap.ofPacked buffer width height = .ok b ∧
        ∀ (room : Nat → Bool) (scale : Int) (p : Palette),
          Palette.ofComponents b p.on.components p.off.components = .ok p ∧
          (∀ q, Picture.make room b scale p = .ok q →
            q.Shows buffer width height (Picture.side scale) p) ∧
          (Extent.HasRoom room (height * Picture.side scale) (width * Picture.side scale) →
            ∃ q, Picture.make room b scale p = .ok q) ∧
          (0x8000000000000000 ≤ scale → Extent.HasRoom room height width →
            Picture.make room b scale p = .error (.range .int64))) ∧
    (∀ (buffer buffer' : List Byte) (width height : Nat), 0 < width → 0 < height → ∀ b b',
      Bitmap.ofPacked buffer width height = .ok b → Bitmap.ofPacked buffer' width height = .ok b' →
      ∀ (room : Nat → Bool) (scale : Int) (p : Palette), p.on ≠ p.off →
        ∀ q, Picture.make room b scale p = .ok q → Picture.make room b' scale p = .ok q →
          buffer = buffer') ∧
    ∀ (host : Host) (file : String) (screen : Nested Int),
      (∀ buffer, Bitmap.nestedBytes screen = .ok buffer → ∀ (c : Scheme) (scale : Int),
        (∀ width height : Nat, 0 < width → 0 < height → 8 * buffer.length = width * height →
          (∀ shot, Screenshot.saveNumbers host file screen width height scale c.name = .ok shot →
            shot.picture.Shows buffer width height (Picture.side scale) c.palette) ∧
          (Extent.HasRoom host.room (height * Picture.side scale) (width * Picture.side scale) →
            host.library.accepts (.ofSquares width height (Picture.side scale)) = .ok () →
            ∀ format, host.library.formatOf file = .ok format →
            host.checkWritable file = .ok () →
            host.library.encodes format (.ofSquares width height (Picture.side scale)) = .ok () →
            ∃ q, Screenshot.saveNumbers host file screen width height scale c.name =
              .ok { format, picture := q })) ∧
        ∀ width height : Int, (buffer.length : Int) * 8 ≠ width * height →
          Screenshot.saveNumbers host file screen width height scale c.name =
            .error (.size buffer.length width height)) ∧
      ∀ name, (∀ c : Scheme, c.name ≠ name) → ∀ width height scale : Int,
        Screenshot.saveNumbers host file screen width height scale name =
          .error (.scheme name) := by
  refine ⟨?pictures, ?different, fun host file screen ↦ ⟨?saved, ?unknown⟩⟩
  case pictures =>
    intro buffer width height hw hh hsize
    refine ⟨_, (Bitmap.ofPacked_eq_ok_iff hw hh).mpr ⟨hsize, rfl⟩, fun room scale p ↦ ?_⟩
    refine ⟨Palette.ofComponents_components _ p, fun q hq ↦ ?_, fun hroom ↦ ?_, ?_⟩
    · rw [Picture.eq_paint_of_make hq]
      exact Picture.shows_paint hsize scale p
    · exact ⟨_, Picture.make_of_hasRoom hw hh hsize hroom⟩
    · intro hscale hroom
      exact Picture.make_of_le hw hh hsize hroom hscale
  case different =>
    intro buffer buffer' width height hw hh b b' hb hb' room scale p hp q hq hq'
    exact Picture.eq_of_make_eq hw hh hp hb hb' hq hq'
  case saved =>
    intro buffer hscreen c scale
    refine ⟨fun width height hw hh hsize ↦ ⟨fun shot hshot ↦ ?_, ?_⟩, fun width height hne ↦ ?_⟩
    · rw [Screenshot.saveNumbers_name hscreen] at hshot
      obtain ⟨-, -, -, -, -, -, -, hpicture⟩ := Screenshot.save_eq_ok_iff.mp hshot
      rw [hpicture]
      exact Picture.shows_paint hsize scale c.palette
    · intro hroom hsides format hformat hfile hencodes
      rw [Screenshot.saveNumbers_name hscreen]
      exact ⟨_, Screenshot.save_of_hasRoom hw hh hsize hroom hsides hformat hfile hencodes
        c.palette⟩
    · rw [Screenshot.saveNumbers_name hscreen]
      exact Screenshot.save_of_ne hne scale c.palette
  case unknown =>
    intro name hname width height scale
    exact Screenshot.saveNumbers_of_unknown hname width height scale

/-- A row of eight pixels with the first one lit, twice as large. -/
theorem pictures_show_screens_of_one_byte :
    let files : Storage := { read := fun _ ↦ .error .missing, checkWritable := fun _ ↦ .ok () }
    let host := FileFormat.host files
    let save := Screenshot.saveNumbers host "screen.png" (Bitmap.numbers [0x80])
    (∃ q, Picture.make host.room (.unpack [0x80] 8 1) 2 Scheme.amber.palette = .ok q ∧
      q.Shows [0x80] 8 1 2 Scheme.amber.palette ∧
      Picture.make host.room (.unpack [0x40] 8 1) 2 Scheme.amber.palette ≠ .ok q) ∧
    (∃ q, save 8 1 2 "amber" = .ok { format := "PNG", picture := q } ∧
      q.Shows [0x80] 8 1 2 Scheme.amber.palette) ∧
    save 8 2 2 "amber" = .error (.size 1 8 2) ∧ save 8 1 2 "sepia" = .error (.scheme "sepia") := by
  intro files host save
  have hroom : Extent.HasRoom host.room 2 16 :=
    ⟨by decide, fun n hn ↦ decide_eq_true (Nat.lt_of_le_of_lt hn (by decide))⟩
  obtain ⟨hpictures, hdifferent, hsaved⟩ := pictures_show_screens
  obtain ⟨hsaved, hunknown⟩ := hsaved host "screen.png" (Bitmap.numbers [0x80])
  obtain ⟨hamber, hsize⟩ := hsaved [0x80] (Bitmap.nestedBytes_numbers _) .amber 2
  refine ⟨?_, ?_, hsize 8 2 (by decide), hunknown "sepia" (by intro c; cases c <;> decide) 8 1 2⟩
  · obtain ⟨b, hb, hb'⟩ := hpictures [0x80] 8 1 (by decide) (by decide) rfl
    obtain ⟨-, hshows, hmade, -⟩ := hb' host.room 2 Scheme.amber.palette
    obtain ⟨q, hq⟩ := hmade hroom
    have hunpacked : Bitmap.ofPacked [0x80] 8 1 = .ok (.unpack [0x80] 8 1) := rfl
    obtain rfl := Except.ok.inj (hunpacked.symm.trans hb)
    refine ⟨q, hq, hshows q hq, fun hq' ↦ ?_⟩
    have heq := hdifferent [0x80] [0x40] 8 1 (by decide) (by decide) _ _ hb rfl host.room 2 _
      (by decide) q hq hq'
    exact absurd heq (by decide)
  · obtain ⟨hshows, hmade⟩ := hamber 8 1 (by decide) (by decide) rfl
    have hextension : FileFormat.extension "screen.png" = ".png" := by decide +kernel
    have hformat : host.library.formatOf "screen.png" = .ok "PNG" := by
      simp only [host, FileFormat.host, FileFormat.library, hextension]
      rfl
    obtain ⟨q, hq⟩ := hmade hroom rfl "PNG" hformat rfl rfl
    exact ⟨q, hq, hshows _ hq⟩

/-- A scale that is no signed 64-bit number makes no picture, not even of eight pixels and with all
the memory that there could be. -/
theorem picture_refused_at_scale :
    Bitmap.ofPacked [0x80] 8 1 = .ok (.unpack [0x80] 8 1) ∧
      Picture.make (fun _ ↦ true) (.unpack [0x80] 8 1) 0x8000000000000000 Scheme.classic.palette =
        .error (.range .int64) :=
  ⟨rfl, rfl⟩

end ChipEight
