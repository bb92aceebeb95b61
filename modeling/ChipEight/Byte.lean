/-!
# Bytes and words

The machine works on 8-bit bytes and 16-bit words. Both are bit vectors, so wrapping is part of the
type and never a side condition. A byte is also a row of eight pixels; read that way its most
significant bit comes first.

## Reading a byte as a row

`Byte.ofBits` and `BitVec.getMsbD` are inverse on the eight positions of a byte. The packed screen
and the sprites in memory are both read through them, which is what makes the two agree on the
leftmost pixel.
-/

namespace ChipEight

/-- Eight bits: a memory cell, a register or a timer. -/
abbrev Byte := BitVec 8

/-- Sixteen bits: the program counter, the index register or a stack cell. -/
abbrev Word := BitVec 16

/-- The low twelve bits of a word, the part that names a place in memory. -/
def Word.address (w : Word) : Word := w &&& 0xFFF

namespace Byte

/-- The byte that is left of a whole number after wrapping. -/
def ofInt (v : Int) : Byte := BitVec.ofInt 8 v

/-- The byte whose bit at position `i` from the left is `f i`. -/
def ofBits (f : Nat → Bool) : Byte :=
  BitVec.ofBoolListBE [f 0, f 1, f 2, f 3, f 4, f 5, f 6, f 7]

def bits (b : Byte) : List Bool := (List.range 8).map b.getMsbD

theorem getMsbD_ofBits (f : Nat → Bool) {i : Nat} (hi : i < 8) : (ofBits f).getMsbD i = f i := by
  have h : (ofBits f).getMsbD i = [f 0, f 1, f 2, f 3, f 4, f 5, f 6, f 7].getD i false :=
    BitVec.getMsbD_ofBoolListBE
  refine h.trans ?_
  match i, hi with
  | 0, _ | 1, _ | 2, _ | 3, _ | 4, _ | 5, _ | 6, _ | 7, _ => rfl

@[simp] theorem ofBits_getMsbD (b : Byte) : ofBits b.getMsbD = b :=
  BitVec.eq_of_getMsbD_eq fun _ hi ↦ getMsbD_ofBits _ hi

@[simp] theorem length_bits (b : Byte) : b.bits.length = 8 := by simp [bits]

end Byte

end ChipEight
