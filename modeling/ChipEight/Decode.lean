import ChipEight.Instruction
import ChipEight.Opcode

/-!
# Decoding

A word is decoded family by family: ten first nibbles stand for one operation each, the other six
for several, which are told apart by the last nibble, by the last two, or by the whole word. A word
that matches nothing is a fault of its own.

Decoding loses nothing. Whatever the operation, the operands are the nibbles of the word at their
places, and the word itself is kept.
-/

namespace ChipEight

/-- The operation that an opcode stands for. -/
def Opcode.operation? (o : Opcode) : Option Operation :=
  match o.n1 with
  | 0x0 => match o.value with
    | 0x00E0 => some .clearScreen
    | 0x00EE => some .ret
    | _ => none
  | 0x1 => some .jump
  | 0x2 => some .call
  | 0x3 => some .skipEqualConst
  | 0x4 => some .skipUnequalConst
  | 0x5 => if o.n4 = 0 then some .skipEqual else none
  | 0x6 => some .loadConst
  | 0x7 => some .addConst
  | 0x8 => match o.n4 with
    | 0x0 => some .copy
    | 0x1 => some .or
    | 0x2 => some .and
    | 0x3 => some .xor
    | 0x4 => some .add
    | 0x5 => some .sub
    | 0x6 => some .shiftRight
    | 0x7 => some .subFrom
    | 0xE => some .shiftLeft
    | _ => none
  | 0x9 => if o.n4 = 0 then some .skipUnequal else none
  | 0xA => some .setIndex
  | 0xB => some .jumpOffset
  | 0xC => some .random
  | 0xD => some .draw
  | 0xE => match o.constant with
    | 0x9E => some .skipPressed
    | 0xA1 => some .skipReleased
    | _ => none
  | _ => match o.constant with
    | 0x07 => some .readDelay
    | 0x0A => some .waitKey
    | 0x15 => some .setDelay
    | 0x18 => some .setSound
    | 0x1E => some .addIndex
    | 0x29 => some .glyph
    | 0x33 => some .decimal
    | 0x55 => some .store
    | 0x65 => some .load
    | _ => none

/-- The instruction of an operation with the operands that an opcode holds. -/
def Opcode.withOperation (o : Opcode) (operation : Operation) : Instruction where
  operation
  raw := o.value
  x := o.n2
  y := o.n3
  n := o.n4
  nn := o.constant
  nnn := o.address

/-- The instruction that an opcode stands for. -/
def Opcode.decode (o : Opcode) : Except Fault Instruction :=
  match o.operation? with
  | some operation => .ok (o.withOperation operation)
  | none => .error (.unknownOpcode o.value)

def decode (v : Int) : Except Failure Instruction :=
  match Opcode.ofInt v with
  | .ok o => o.decode.mapError .fault
  | .error e => .error (.range e)

end ChipEight
