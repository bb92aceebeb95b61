import ChipEight.Failure
import ChipEight.Operation

/-!
# Instructions

An instruction is an operation with its operands. The two register operands are register numbers by
type. The other operands are whole numbers without a bound: decoding fills them from the bits of a
word, but an instruction may also be put together by hand, and it is executing it that decides
whether such an operand fits.

All operands are kept, also those that the operation has no use for, because an instruction shows
the whole word that it was decoded from.
-/

namespace ChipEight

/-- An operation with its operands. -/
structure Instruction where
  /-- What the instruction does. -/
  operation : Operation
  /-- The word that it was decoded from. -/
  raw : Int := 0
  /-- The first register. -/
  x : Fin registerCount := 0
  /-- The second register. -/
  y : Fin registerCount := 0
  /-- The row count, the last four bits. -/
  n : Int := 0
  /-- The constant, the last eight bits. -/
  nn : Int := 0
  /-- The address, the last twelve bits. -/
  nnn : Int := 0
deriving DecidableEq, Repr

namespace Instruction

/-- The register of a number, if there is one; the fault of a wrong number names the raw word. -/
def register (raw index : Int) : Except Fault (Fin registerCount) :=
  if h : 0 ≤ index ∧ index < registerCount then .ok ⟨index.toNat, by omega⟩
  else .error { cause := .invalidRegister index, opcode := some raw }

/-- The instruction of the given parts. The first register is looked at first. -/
def build (operation : Operation) (raw x y n nn nnn : Int) : Except Fault Instruction := do
  let x ← register raw x
  let y ← register raw y
  return { operation, raw, x, y, n, nn, nnn }

/-- The constant as a byte to be kept. What does not fit the byte is cut off, but the constant has
to be a 32-bit number. -/
def constant (i : Instruction) : Except Failure Byte := (wrappedCell 8 i.nn).mapError .range

/-- The constant as the right operand of a computation with a register. What does not fit a byte is
cut off, but the constant has to be a 32-bit number. -/
def operand (i : Instruction) : Except Failure Byte := (operandCell .right 8 i.nn).mapError .range

/-- The address as the left operand of a sum. What does not fit a word is cut off, but the address
has to be a 32-bit number. -/
def offset (i : Instruction) : Except Failure Word := (operandCell .left 16 i.nnn).mapError .range

def registerName (x : Fin registerCount) : List Char := 'V' :: Numeral.hexDigits x

/-- What stands in a slot of a template. -/
def slot (i : Instruction) : Piece → List Char
  | .literal text => text.toList
  | .x => registerName i.x
  | .y => registerName i.y
  | .n => Numeral.decimal i.n
  | .nn => '0' :: 'x' :: Numeral.hex 2 i.nn
  | .nnn => '0' :: 'x' :: Numeral.hex 3 i.nnn

/-- The assembly text of an instruction, as characters. -/
def assemblyChars (i : Instruction) : List Char := i.operation.template.flatMap i.slot

def assembly (i : Instruction) : String := String.ofList i.assemblyChars

end Instruction

end ChipEight
