/-!
# Operations

The thirty-four things that the machine can do, each with the template of its assembly text. A
template is literal text with slots for operands; only the operands that matter to an operation have
a slot, which is why two instructions with the same text do the same thing.

## Order

`Operation.all` lists the operations in the order of their opcodes.
-/

namespace ChipEight

/-- What an instruction does. -/
inductive Operation where
  /-- `00E0`: clear the screen. -/
  | clearScreen
  /-- `00EE`: return from a subroutine. -/
  | ret
  /-- `1NNN`: jump to an address. -/
  | jump
  /-- `2NNN`: call the subroutine at an address. -/
  | call
  /-- `3XNN`: skip the next instruction if a register holds a constant. -/
  | skipEqualConst
  /-- `4XNN`: skip the next instruction unless a register holds a constant. -/
  | skipUnequalConst
  /-- `5XY0`: skip the next instruction if two registers agree. -/
  | skipEqual
  /-- `6XNN`: load a constant. -/
  | loadConst
  /-- `7XNN`: add a constant, without a carry. -/
  | addConst
  /-- `8XY0`: copy a register. -/
  | copy
  /-- `8XY1`: bitwise or. -/
  | or
  /-- `8XY2`: bitwise and. -/
  | and
  /-- `8XY3`: bitwise exclusive or. -/
  | xor
  /-- `8XY4`: add with carry. -/
  | add
  /-- `8XY5`: subtract with borrow. -/
  | sub
  /-- `8XY6`: shift right. -/
  | shiftRight
  /-- `8XY7`: subtract from, with borrow. -/
  | subFrom
  /-- `8XYE`: shift left. -/
  | shiftLeft
  /-- `9XY0`: skip the next instruction unless two registers agree. -/
  | skipUnequal
  /-- `ANNN`: set the index register. -/
  | setIndex
  /-- `BNNN`: jump to an address plus `V0`. -/
  | jumpOffset
  /-- `CXNN`: draw a random byte under a mask. -/
  | random
  /-- `DXYN`: draw a sprite. -/
  | draw
  /-- `EX9E`: skip the next instruction if a key is down. -/
  | skipPressed
  /-- `EXA1`: skip the next instruction unless a key is down. -/
  | skipReleased
  /-- `FX07`: read the delay timer. -/
  | readDelay
  /-- `FX0A`: wait for a key. -/
  | waitKey
  /-- `FX15`: set the delay timer. -/
  | setDelay
  /-- `FX18`: set the sound timer. -/
  | setSound
  /-- `FX1E`: add a register to the index register. -/
  | addIndex
  /-- `FX29`: point the index register at the glyph of a digit. -/
  | glyph
  /-- `FX33`: store the three decimal digits of a register. -/
  | decimal
  /-- `FX55`: store registers in memory. -/
  | store
  /-- `FX65`: load registers from memory. -/
  | load
deriving DecidableEq, Repr

/-- A piece of an assembly template. -/
inductive Piece where
  /-- Text that stands as it is. -/
  | literal (text : String)
  /-- The number of the first register. -/
  | x
  /-- The number of the second register. -/
  | y
  /-- The row count. -/
  | n
  /-- The constant. -/
  | nn
  /-- The address. -/
  | nnn
deriving DecidableEq, Repr

namespace Operation

def all : List Operation :=
  [.clearScreen, .ret, .jump, .call, .skipEqualConst, .skipUnequalConst, .skipEqual, .loadConst,
   .addConst, .copy, .or, .and, .xor, .add, .sub, .shiftRight, .subFrom, .shiftLeft, .skipUnequal,
   .setIndex, .jumpOffset, .random, .draw, .skipPressed, .skipReleased, .readDelay, .waitKey,
   .setDelay, .setSound, .addIndex, .glyph, .decimal, .store, .load]

theorem mem_all (o : Operation) : o ∈ all := by cases o <;> decide

/-- How an operation is written in assembly. -/
def template : Operation → List Piece
  | .clearScreen => [.literal "CLS"]
  | .ret => [.literal "RET"]
  | .jump => [.literal "JP ", .nnn]
  | .call => [.literal "CALL ", .nnn]
  | .skipEqualConst => [.literal "SE ", .x, .literal ", ", .nn]
  | .skipUnequalConst => [.literal "SNE ", .x, .literal ", ", .nn]
  | .skipEqual => [.literal "SE ", .x, .literal ", ", .y]
  | .loadConst => [.literal "LD ", .x, .literal ", ", .nn]
  | .addConst => [.literal "ADD ", .x, .literal ", ", .nn]
  | .copy => [.literal "LD ", .x, .literal ", ", .y]
  | .or => [.literal "OR ", .x, .literal ", ", .y]
  | .and => [.literal "AND ", .x, .literal ", ", .y]
  | .xor => [.literal "XOR ", .x, .literal ", ", .y]
  | .add => [.literal "ADD ", .x, .literal ", ", .y]
  | .sub => [.literal "SUB ", .x, .literal ", ", .y]
  | .shiftRight => [.literal "SHR ", .x]
  | .subFrom => [.literal "SUBN ", .x, .literal ", ", .y]
  | .shiftLeft => [.literal "SHL ", .x]
  | .skipUnequal => [.literal "SNE ", .x, .literal ", ", .y]
  | .setIndex => [.literal "LD I, ", .nnn]
  | .jumpOffset => [.literal "JP V0, ", .nnn]
  | .random => [.literal "RND ", .x, .literal ", ", .nn]
  | .draw => [.literal "DRW ", .x, .literal ", ", .y, .literal ", ", .n]
  | .skipPressed => [.literal "SKP ", .x]
  | .skipReleased => [.literal "SKNP ", .x]
  | .readDelay => [.literal "LD ", .x, .literal ", DT"]
  | .waitKey => [.literal "LD ", .x, .literal ", K"]
  | .setDelay => [.literal "LD DT, ", .x]
  | .setSound => [.literal "LD ST, ", .x]
  | .addIndex => [.literal "ADD I, ", .x]
  | .glyph => [.literal "LD F, ", .x]
  | .decimal => [.literal "LD B, ", .x]
  | .store => [.literal "LD [I], ", .x]
  | .load => [.literal "LD ", .x, .literal ", [I]"]

end Operation

end ChipEight
