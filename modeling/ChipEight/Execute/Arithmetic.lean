import ChipEight.State

/-!
# Arithmetic

The operations on two registers. Each is a function of two bytes that gives a byte and, for the
operations that have one, a flag.

## Order of writing

The result is written first and the flag second. An operation on `VF` itself therefore leaves the
flag there and the result is lost. Operations without a flag do not touch `VF`.
-/

namespace ChipEight

/-- What an arithmetic operation gives. -/
structure Arithmetic where
  /-- The byte for the first register. -/
  value : Byte
  /-- The flag, if the operation has one. -/
  flag : Option Bool := none
deriving DecidableEq, Repr

namespace Arithmetic

/-- `8XY0`: the second byte. -/
def copy (_ b : Byte) : Arithmetic := { value := b }

/-- `8XY1`: the bits set in either byte. -/
def or (a b : Byte) : Arithmetic := { value := a ||| b }

/-- `8XY2`: the bits set in both bytes. -/
def and (a b : Byte) : Arithmetic := { value := a &&& b }

/-- `8XY3`: the bits set in exactly one byte. -/
def xor (a b : Byte) : Arithmetic := { value := a ^^^ b }

/-- `8XY4`: the sum, with a flag for a carry. -/
def add (a b : Byte) : Arithmetic :=
  { value := a + b, flag := some (decide (0xFF < a.toNat + b.toNat)) }

/-- `8XY5`: the difference, with a flag for no borrow. -/
def sub (a b : Byte) : Arithmetic := { value := a - b, flag := some (decide (b ≤ a)) }

/-- `8XY6`: half of the first byte, with the bit that falls out. -/
def shiftRight (a _ : Byte) : Arithmetic := { value := a >>> 1, flag := some (a.getLsbD 0) }

/-- `8XY7`: the difference the other way round, with a flag for no borrow. -/
def subFrom (a b : Byte) : Arithmetic := { value := b - a, flag := some (decide (a ≤ b)) }

/-- `8XYE`: twice the first byte, with the bit that falls out. -/
def shiftLeft (a _ : Byte) : Arithmetic := { value := a <<< 1, flag := some (a.getMsbD 0) }

end Arithmetic

namespace State

variable {g : Geometry} {capacity : Nat}

/-- Applies an arithmetic operation to two registers: the result first, the flag second. -/
def arithmetic (s : State g capacity) (f : Byte → Byte → Arithmetic) (x y : Fin registerCount) :
    State g capacity :=
  let a := f (s.register x) (s.register y)
  let t := s.setRegister x a.value
  (match a.flag with
    | some flag => t.setFlag flag
    | none => t).proceed

/-- `6XNN`: loads a constant. -/
def loadConst (s : State g capacity) (x : Fin registerCount) (v : Byte) : State g capacity :=
  (s.setRegister x v).proceed

/-- `7XNN`: adds a constant, wrapping and without a flag. -/
def addConst (s : State g capacity) (x : Fin registerCount) (v : Byte) : State g capacity :=
  (s.setRegister x (s.register x + v)).proceed

/-- `CXNN`: draws a random byte under a mask and moves the random source on. -/
def random (s : State g capacity) (x : Fin registerCount) (mask : Byte) : State g capacity :=
  let t := s.setRegister x (s.rng.byte &&& mask)
  { t with rng := s.rng.next }.proceed

end State

end ChipEight
