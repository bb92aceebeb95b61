import ChipEight.Instruction

/-!
# The instruction table

How each operation is laid out in a word: the bits that are the same in all of its words, and the
bits that hold operands. The layouts come in six forms, named by the operands they have room for.

The table is independent of decoding, which goes by families of nibbles. That the two agree, that no
word matches two rows, and that `assemble` builds exactly the words of a row are facts about them,
and none holds by construction.
-/

namespace ChipEight

/-- The room that a word has for operands. -/
inductive Form where
  /-- All bits are fixed. -/
  | plain
  /-- A 12-bit address behind one fixed nibble. -/
  | address
  /-- A register and an 8-bit constant behind one fixed nibble. -/
  | registerConst
  /-- Two registers between two fixed nibbles. -/
  | registers
  /-- Two registers and a row count behind one fixed nibble. -/
  | registersRows
  /-- A register between one fixed nibble and a fixed byte. -/
  | register
deriving DecidableEq, Repr

def Form.mask : Form → Word
  | .plain => 0xFFFF
  | .address => 0xF000
  | .registerConst => 0xF000
  | .registers => 0xF00F
  | .registersRows => 0xF000
  | .register => 0xF0FF

namespace Operation

def form : Operation → Form
  | .clearScreen | .ret => .plain
  | .jump | .call | .setIndex | .jumpOffset => .address
  | .skipEqualConst | .skipUnequalConst | .loadConst | .addConst | .random => .registerConst
  | .skipEqual | .skipUnequal | .copy | .or | .and | .xor | .add | .sub | .shiftRight | .subFrom
  | .shiftLeft => .registers
  | .draw => .registersRows
  | .skipPressed | .skipReleased | .readDelay | .waitKey | .setDelay | .setSound | .addIndex
  | .glyph | .decimal | .store | .load => .register

/-- The fixed bits of the words of an operation, with zeros where operands go. -/
def pattern : Operation → Word
  | .clearScreen => 0x00E0
  | .ret => 0x00EE
  | .jump => 0x1000
  | .call => 0x2000
  | .skipEqualConst => 0x3000
  | .skipUnequalConst => 0x4000
  | .skipEqual => 0x5000
  | .loadConst => 0x6000
  | .addConst => 0x7000
  | .copy => 0x8000
  | .or => 0x8001
  | .and => 0x8002
  | .xor => 0x8003
  | .add => 0x8004
  | .sub => 0x8005
  | .shiftRight => 0x8006
  | .subFrom => 0x8007
  | .shiftLeft => 0x800E
  | .skipUnequal => 0x9000
  | .setIndex => 0xA000
  | .jumpOffset => 0xB000
  | .random => 0xC000
  | .draw => 0xD000
  | .skipPressed => 0xE09E
  | .skipReleased => 0xE0A1
  | .readDelay => 0xF007
  | .waitKey => 0xF00A
  | .setDelay => 0xF015
  | .setSound => 0xF018
  | .addIndex => 0xF01E
  | .glyph => 0xF029
  | .decimal => 0xF033
  | .store => 0xF055
  | .load => 0xF065

/-- Whether a word lies in the row of an operation. -/
def Matches (o : Operation) (w : Word) : Prop := w &&& o.form.mask = o.pattern

instance (o : Operation) (w : Word) : Decidable (o.Matches w) :=
  inferInstanceAs (Decidable (_ = _))

end Operation

/-- The operands that an assembler puts into a word, each of the width of its field. -/
structure Operands where
  /-- The first register. -/
  x : BitVec 4 := 0
  /-- The second register. -/
  y : BitVec 4 := 0
  /-- The row count. -/
  n : BitVec 4 := 0
  /-- The constant. -/
  nn : BitVec 8 := 0
  /-- The address. -/
  nnn : BitVec 12 := 0
deriving DecidableEq, Repr

/-- The operand bits of a word of the given form. -/
def Form.fields (f : Form) (a : Operands) : Word :=
  match f with
  | .plain => 0
  | .address => 0#4 ++ a.nnn
  | .registerConst => 0#4 ++ a.x ++ a.nn
  | .registers => 0#4 ++ a.x ++ a.y ++ 0#4
  | .registersRows => 0#4 ++ a.x ++ a.y ++ a.n
  | .register => 0#4 ++ a.x ++ 0#8

/-- The word of an operation with the given operands. -/
def assemble (o : Operation) (a : Operands) : Word := o.pattern ||| o.form.fields a

end ChipEight
