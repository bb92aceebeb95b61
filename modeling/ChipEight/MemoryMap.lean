import ChipEight.Byte

/-!
# The memory map

The fixed numbers of the machine: how much memory it has, where the glyphs and the program sit, and
how many registers, keys and call levels there are.

Memory ends one byte short of the 12-bit address space. The last address that holds a whole
two-byte instruction is therefore `0xFFD`, and the two addresses beyond it can be named by an
instruction although nothing can be executed there.
-/

namespace ChipEight

abbrev memorySize : Nat := 4095

/-- The address at which programs are loaded and execution begins. -/
def programStart : Nat := 0x200

/-- The longest program that can be loaded. -/
def maxRomSize : Nat := 0x400

/-- The mask that cuts a number to the 12-bit address space. -/
def addressMask : Nat := 0xFFF

/-- The number of registers `V0` to `VF`. -/
abbrev registerCount : Nat := 16

theorem registerCount_pos : 0 < registerCount := by decide

abbrev keyCount : Nat := 16

/-- The register that receives carries, borrows and collisions. -/
def flagRegister : Fin registerCount := 15

/-- The register that is added to the target of a jump with an offset. -/
def offsetRegister : Fin registerCount := 0

/-- The call depth of a machine that asks for nothing else. -/
def defaultStackSize : Nat := 16

/-- The screen width of a machine that asks for nothing else. -/
def defaultWidth : Nat := 64

/-- The screen height of a machine that asks for nothing else. -/
def defaultHeight : Nat := 32

/-- The address of the glyph for the digit zero. -/
def fontStart : Nat := 0

/-- The number of bytes, and so of pixel rows, in one glyph. -/
def glyphSize : Nat := 5

/-- The glyphs of the sixteen hexadecimal digits, five rows each. -/
def fontData : List Byte :=
  [0xF0, 0x90, 0x90, 0x90, 0xF0,  -- 0
   0x20, 0x60, 0x20, 0x20, 0x70,  -- 1
   0xF0, 0x10, 0xF0, 0x80, 0xF0,  -- 2
   0xF0, 0x10, 0xF0, 0x10, 0xF0,  -- 3
   0x90, 0x90, 0xF0, 0x10, 0x10,  -- 4
   0xF0, 0x80, 0xF0, 0x10, 0xF0,  -- 5
   0xF0, 0x80, 0xF0, 0x90, 0xF0,  -- 6
   0xF0, 0x10, 0x20, 0x40, 0x40,  -- 7
   0xF0, 0x90, 0xF0, 0x90, 0xF0,  -- 8
   0xF0, 0x90, 0xF0, 0x10, 0xF0,  -- 9
   0xF0, 0x90, 0xF0, 0x90, 0x90,  -- A
   0xE0, 0x90, 0xE0, 0x90, 0xE0,  -- B
   0xF0, 0x80, 0x80, 0x80, 0xF0,  -- C
   0xE0, 0x90, 0x90, 0x90, 0xE0,  -- D
   0xF0, 0x80, 0xF0, 0x80, 0xF0,  -- E
   0xF0, 0x80, 0xF0, 0x80, 0x80]  -- F

end ChipEight
