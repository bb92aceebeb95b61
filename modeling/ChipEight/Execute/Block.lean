import ChipEight.State

/-!
# The index register and what it points at

Instructions that set the index register, and those that read or write memory where it points. The
latter check their whole block before they touch it.
-/

namespace ChipEight.State

variable {g : Geometry} {capacity : Nat}

/-- `ANNN`: sets the index register to an address, which has to fit a word. -/
def setIndex (s : State g capacity) (a : Int) : Except Failure (State g capacity) := do
  let index ← (exactCell 16 a).mapError .range
  return proceed { s with index }

/-- `FX1E`: adds a register to the index register, around the end of the address space. The flag
tells whether the end was passed. -/
def addIndex (s : State g capacity) (x : Fin registerCount) : State g capacity :=
  let sum := s.index.toNat + (s.register x).toNat
  let t := s.setFlag (decide (addressMask < sum))
  { t with index := BitVec.ofNat 16 (sum % 0x1000) }.proceed

/-- `FX29`: points the index register at the glyph of the last four bits of a register. -/
def glyph (s : State g capacity) (x : Fin registerCount) : State g capacity :=
  let digit := (s.register x).toNat % 16
  { s with index := BitVec.ofNat 16 (fontStart + digit * glyphSize) }.proceed

/-- The hundreds, tens and ones of a byte. -/
def decimalDigits (b : Byte) : List Byte :=
  [b.toNat / 100, b.toNat / 10 % 10, b.toNat % 10].map (BitVec.ofNat 8)

/-- `FX33`: stores the three decimal digits of a register. -/
def storeDecimal (s : State g capacity) (x : Fin registerCount) :
    Except Fault (State g capacity) := do
  Memory.checkRange s.index.toNat 3
  return proceed
    { s with memory := s.memory.write s.index.toNat (decimalDigits (s.register x)) }

/-- `FX55`: stores the registers up to and including the given one. -/
def store (s : State g capacity) (x : Fin registerCount) : Except Fault (State g capacity) := do
  Memory.checkRange s.index.toNat (x + 1)
  return proceed
    { s with memory := s.memory.write s.index.toNat (s.registers.toList.take (x + 1)) }

/-- `FX65`: loads the registers up to and including the given one. -/
def load (s : State g capacity) (x : Fin registerCount) : Except Fault (State g capacity) := do
  Memory.checkRange s.index.toNat (x + 1)
  return proceed
    { s with
      registers := Vector.ofFn fun i ↦
        if i ≤ x then s.memory.read (s.index.toNat + i) else s.register i }

end ChipEight.State
