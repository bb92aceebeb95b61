import ChipEight.Failure

/-!
# Opcodes

An opcode is a 16-bit word taken as an instruction. It is read in nibbles, four bits each: the first
one mostly tells the operation, the second and third name registers, and the last one, two or three
together are a row count, a constant or an address.
-/

namespace ChipEight

/-- A word taken as an instruction. -/
structure Opcode where
  /-- The word. -/
  word : Word
deriving DecidableEq, Repr

namespace Opcode

def ofInt (v : Int) : Except RangeError Opcode :=
  if 0 ≤ v ∧ v ≤ 0xFFFF then .ok ⟨BitVec.ofInt 16 v⟩ else .error (.opcode v)

/-- The opcode of two bytes in memory, the high one first. -/
def ofBytes (high low : Byte) : Opcode := ⟨high ++ low⟩

/-- The opcode of two numbers of any size, of each of which only the lowest byte counts. -/
def ofLowBytes (high low : Int) : Except RangeError Opcode :=
  ofInt ((Byte.ofInt high).toNat <<< 8 ||| (Byte.ofInt low).toNat : Nat)

def value (o : Opcode) : Nat := o.word.toNat

/-- The first nibble, which selects a family of operations. -/
def n1 (o : Opcode) : Nat := o.value / 0x1000 % 16

/-- The second nibble, the first register. -/
def n2 (o : Opcode) : Fin 16 := ⟨o.value / 0x100 % 16, Nat.mod_lt _ (by decide)⟩

/-- The third nibble, the second register. -/
def n3 (o : Opcode) : Fin 16 := ⟨o.value / 0x10 % 16, Nat.mod_lt _ (by decide)⟩

/-- The last nibble, the row count. -/
def n4 (o : Opcode) : Nat := o.value % 0x10

/-- The last two nibbles, the constant. -/
def constant (o : Opcode) : Nat := o.value % 0x100

/-- The last three nibbles, the address. -/
def address (o : Opcode) : Nat := o.value % 0x1000

theorem value_lt (o : Opcode) : o.value < 0x10000 := o.word.isLt

end Opcode

end ChipEight
