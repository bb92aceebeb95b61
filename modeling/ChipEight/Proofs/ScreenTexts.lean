import ChipEight.Proofs.Pictures

/-!
# Screens as text

The text of a screen has a line for each row of pixels and a character for each pixel. Nothing is
lost in it: as long as the two characters differ, and neither of them ends a line, the text is read
back to the bytes that were shown.

## Reading back

A text is cut at its line breaks, `Bitmap.lines`, and a character of a line that stands for no pixel
makes the text unreadable. The pixels are taken line after line, eight to a byte, with no regard to
where a line ends. So the width of a screen does not have to be a whole number of bytes: that the
lines are the rows of the screen is said by a `Raster`, and for reading them it is enough that rows
which were cut off one line of bits make up this line again, `Bitmap.flatten_cut`.
-/

namespace ChipEight.Bitmap

/-! ## From text to bytes -/

/-- The lines of a text. A line break at the end of the text begins a last, empty line. -/
def lines (text : String) : List (List Char) := text.toList.splitOn '\n'

def pixelOf? (on off c : Char) : Option Bool :=
  if c = on then some true else if c = off then some false else none

/-- The bytes of a line of bits, each of eight bits with the highest one first. -/
def pack : List Bool → List Byte
  | a :: b :: c :: d :: e :: f :: g :: h :: rest =>
    BitVec.ofBoolListBE [a, b, c, d, e, f, g, h] :: pack rest
  | _ => []

/-- The bytes that a text shows, if all characters of its lines stand for pixels. -/
def ofText? (on off : Char) (text : String) : Option (List Byte) :=
  ((lines text).flatten.mapM (pixelOf? on off)).map pack

def letter (on off : Char) (lit : Bool) : Char := if lit then on else off

section Text

variable {on off : Char} {b : Bitmap}

theorem letter_ne {c : Char} (hon : on ≠ c) (hoff : off ≠ c) (lit : Bool) :
    letter on off lit ≠ c := by
  rcases lit with _ | _
  · exact hoff
  · exact hon

theorem pixelOf?_letter (h : on ≠ off) (lit : Bool) :
    pixelOf? on off (letter on off lit) = some lit := by
  rcases lit with _ | _
  · rw [letter, pixelOf?, if_neg Bool.false_ne_true, if_neg h.symm, if_pos rfl]
  · rw [letter, pixelOf?, if_pos rfl, if_pos rfl]

/-! ## Lines and rows -/

theorem toList_join_letters (row : List Bool) :
    (String.join (row.map fun lit ↦ if lit then String.singleton on else .singleton off)).toList =
      row.map (letter on off) := by
  rw [String.toList_join]
  induction row with
  | nil => rfl
  | cons lit row ih =>
    have hletter : (if lit then String.singleton on else .singleton off).toList =
        [letter on off lit] := by
      rw [letter]
      split <;> exact String.toList_singleton _
    rw [List.map_cons, List.flatMap_cons, ih, List.map_cons, hletter, List.singleton_append]

theorem toList_text (b : Bitmap) (on off : Char) :
    (b.text (.singleton on) (.singleton off)).toList =
      ['\n'].intercalate (b.rows.map fun row ↦ row.map (letter on off)) := by
  have hbreak : "\n".toList = ['\n'] := rfl
  rw [text, String.toList_intercalate, List.map_map, hbreak]
  congr 1
  exact List.map_congr_left fun row _ ↦ toList_join_letters row

/-- The lines of the text of a bitmap are its rows. A text without any rows would still have one
line, which is empty. -/
theorem lines_text (hrows : b.rows ≠ []) (hon : on ≠ '\n') (hoff : off ≠ '\n') :
    lines (b.text (.singleton on) (.singleton off)) =
      b.rows.map fun row ↦ row.map (letter on off) := by
  rw [lines, toList_text]
  apply List.splitOn_intercalate
  · intro line hline hmem
    obtain ⟨row, -, rfl⟩ := List.mem_map.mp hline
    obtain ⟨lit, -, hlit⟩ := List.mem_map.mp hmem
    exact letter_ne hon hoff lit hlit
  · exact fun h ↦ hrows (List.map_eq_nil_iff.mp h)

theorem getLast?_ne_of_lines {text : String} (h : ∀ line ∈ lines text, line ≠ []) :
    text.toList.getLast? ≠ some '\n' := by
  intro hlast
  obtain ⟨front, hfront⟩ := List.getLast?_eq_some_iff.mp hlast
  refine h [] ?_ rfl
  rw [lines, hfront, List.splitOn_append_cons_self, List.splitOn_nil]
  exact List.mem_append_right _ List.mem_cons_self

/-! ## Reading what was written -/

theorem mapM_pixelOf?_letters (h : on ≠ off) (row : List Bool) :
    (row.map (letter on off)).mapM (pixelOf? on off) = some row := by
  induction row with
  | nil => rfl
  | cons lit row ih =>
    rw [List.map_cons, List.mapM_cons, pixelOf?_letter h, ih]
    rfl

/-- The text of a bitmap is read back to the bytes of its pixels, row after row. -/
theorem ofText?_text (hrows : b.rows ≠ []) (hne : on ≠ off) (hon : on ≠ '\n') (hoff : off ≠ '\n') :
    ofText? on off (b.text (.singleton on) (.singleton off)) = some (pack b.rows.flatten) := by
  rw [ofText?, lines_text hrows hon hoff, ← List.map_flatten, mapM_pixelOf?_letters hne]
  rfl

end Text

theorem pack_flatMap_bits (buffer : List Byte) : pack (buffer.flatMap Byte.bits) = buffer := by
  induction buffer with
  | nil => rfl
  | cons byte buffer ih =>
    have hfirst : pack (byte.bits ++ buffer.flatMap Byte.bits) =
        Byte.ofBits byte.getMsbD :: pack (buffer.flatMap Byte.bits) := rfl
    rw [List.flatMap_cons, hfirst, ih, Byte.ofBits_getMsbD]

theorem flatten_cut (width rows : Nat) (line : List Bool) :
    (cut width rows line).flatten = line.take (rows * width) := by
  induction rows generalizing line with
  | zero =>
    rw [Nat.zero_mul, List.take_zero]
    rfl
  | succ rows ih => rw [cut, List.flatten_cons, ih, Nat.succ_mul, Nat.add_comm, List.take_add]

theorem pack_rows_unpack {buffer : List Byte} {width height : Nat}
    (h : 8 * buffer.length = width * height) :
    pack (unpack buffer width height).rows.flatten = buffer := by
  have hlen : (buffer.flatMap Byte.bits).length = height * width := by
    rw [length_flatMap_blocks Byte.length_bits, h, Nat.mul_comm]
  rw [unpack, flatten_cut, List.take_of_length_le (Nat.le_of_eq hlen), pack_flatMap_bits]

/-- **The text of a screen is read back.** A buffer of the right size has a text in any two
different characters that do not end lines. It consists of the rows of the screen, each pixel shown
by the one character if its bit is set and by the other if not, with a line break between two rows
and none at the end. Reading it gives the buffer back, so different buffers have different texts. -/
theorem text_reads_back {width height : Nat} (hw : 0 < width) (hh : 0 < height) {on off : Char}
    (hne : on ≠ off) (hon : on ≠ '\n') (hoff : off ≠ '\n') {buffer : List Byte}
    (hsize : 8 * buffer.length = width * height) :
    ∃ b, ofPacked buffer width height = .ok b ∧
      let shown := b.text (.singleton on) (.singleton off)
      (∃ rows, Raster rows width height
          (fun r c ↦ if bitAt buffer (r * width + c) then on else off) ∧
        shown.toList = ['\n'].intercalate rows) ∧
      shown.toList.getLast? ≠ some '\n' ∧
      ofText? on off shown = some buffer ∧
      ∀ (buffer' : List Byte) (b' : Bitmap), ofPacked buffer' width height = .ok b' →
        (b'.text (.singleton on) (.singleton off) = shown ↔ buffer' = buffer) := by
  have hread {buffer' : List Byte} (h : 8 * buffer'.length = width * height) :
      (unpack buffer' width height).rows ≠ [] ∧
        ofText? on off ((unpack buffer' width height).text (.singleton on) (.singleton off)) =
          some buffer' := by
    -- a text without rows and one with an empty row would be the same
    have hrows : (unpack buffer' width height).rows ≠ [] := by
      intro hnil
      have hlen := (raster_unpack h).length_rows
      rw [hnil] at hlen
      exact absurd hlen (Nat.ne_of_lt hh)
    exact ⟨hrows, by rw [ofText?_text hrows hne hon hoff, pack_rows_unpack h]⟩
  obtain ⟨hrows, hback⟩ := hread hsize
  have hlines := lines_text hrows hon hoff
  have hraster := (raster_unpack hsize).map (letter on off)
  refine ⟨_, (ofPacked_eq_ok_iff hw hh).mpr ⟨hsize, rfl⟩, ?_, ?_, hback, ?_⟩
  · exact ⟨_, hraster, toList_text _ on off⟩
  · -- a row has pixels, so no line is empty, and the last one is not either
    apply getLast?_ne_of_lines
    intro line hline hnil
    rw [hlines] at hline
    have hlen := hraster.length_row line hline
    rw [hnil] at hlen
    exact absurd hlen (Nat.ne_of_lt hw)
  · intro buffer' b' hb'
    obtain ⟨hsize', rfl⟩ := (ofPacked_eq_ok_iff hw hh).mp hb'
    constructor
    · intro hsame
      have hback' := (hread hsize').2
      rw [hsame, hback] at hback'
      exact (Option.some.inj hback').symm
    · rintro rfl
      rfl

/-- Three bytes as two rows of twelve pixels. -/
theorem text_reads_back_of_half_bytes :
    8 * ([0xF0, 0x0F, 0xA5] : List Byte).length = 12 * 2 ∧
      ('#' ≠ '.' ∧ '#' ≠ '\n' ∧ '.' ≠ '\n') ∧
      ∃ b, ofPacked [0xF0, 0x0F, 0xA5] 12 2 = .ok b ∧
        b.text "#" "." = "####........\n#####.#..#.#" ∧
        ofText? '#' '.' "####........\n#####.#..#.#" = some [0xF0, 0x0F, 0xA5] := by
  have hsize : 8 * ([0xF0, 0x0F, 0xA5] : List Byte).length = 12 * 2 := rfl
  have hletters : '#' ≠ '.' ∧ '#' ≠ '\n' ∧ '.' ≠ '\n' := by decide
  have hshown : (unpack [0xF0, 0x0F, 0xA5] 12 2).text (.singleton '#') (.singleton '.') =
      "####........\n#####.#..#.#" := by decide +kernel
  refine ⟨hsize, hletters, ?_⟩
  obtain ⟨b, hb, -, -, hback, -⟩ := text_reads_back (Nat.succ_pos _) (Nat.succ_pos _) hletters.1
    hletters.2.1 hletters.2.2 hsize
  obtain ⟨-, rfl⟩ := (ofPacked_eq_ok_iff (by decide) (by decide)).mp hb
  rw [hshown] at hback
  exact ⟨_, hb, hshown, hback⟩

end ChipEight.Bitmap
