import ChipEight.Decode
import ChipEight.Memory

/-!
# Listings

A listing shows a stretch of memory as instructions, one for every two bytes, each with its address,
its word and its text. A word that is no instruction is shown as data.

## Addresses

The end of memory is checked for every address: both bytes of a word have to lie before it.
Addresses below zero count from the end, so that a listing which starts there shows the last bytes
and goes on at the beginning. A listing that meets an address without a byte has no lines at all.
-/

namespace ChipEight

/-- A word of memory as an instruction. -/
structure Line where
  /-- Where the word stands. -/
  address : Int
  /-- The word. -/
  word : Nat
  /-- The word as assembly text. -/
  text : String
deriving DecidableEq, Repr

/-- The text of an opcode: an instruction, or data. -/
def Opcode.text (o : Opcode) : String :=
  match o.decode with
  | .ok i => i.assembly
  | .error _ => "DW " ++ Numeral.hexText 4 o.value

namespace Listing

/-- The byte at an address, counted from the end if it is negative. -/
def byteAt (bytes : Array Byte) (outside : Int → IndexError) (a : Int) : Except Failure Byte :=
  let place := if a < 0 then a + bytes.size else a
  if place < 0 then .error (.index (outside a)) else .ok (bytes[place.toNat]?.getD 0)

def line (bytes : Array Byte) (outside : Int → IndexError) (a : Int) : Except Failure Line :=
  if bytes.size ≤ a + 1 then .error (.fault (.memoryAccess a 2))
  else do
    let high ← byteAt bytes outside a
    let low ← byteAt bytes outside (a + 1)
    let opcode := Opcode.ofBytes high low
    return { address := a, word := opcode.value, text := opcode.text }

def lines (bytes : Array Byte) (outside : Int → IndexError) :
    Nat → Int → Except Failure (List Line)
  | 0, _ => .ok []
  | count + 1, a => do
    let first ← line bytes outside a
    let rest ← lines bytes outside count (a + 2)
    return first :: rest

/-- The place in front of a list that an address counts to. -/
def outsideList (a : Int) : IndexError := if fitsSigned 64 a then .list else .tooWide

/-- The place in front of a memory of the given size that an address counts to. -/
def outsideMemory (size : Nat) (a : Int) : IndexError :=
  if fitsSigned 64 a then .axis a size else .noIndex

/-- The listing of a row of bytes. A count below zero asks for nothing. -/
def ofBytes (bytes : List Byte) (start count : Int) : Except Failure (List Line) :=
  lines bytes.toArray outsideList count.toNat start

end Listing

def Memory.listing (m : Memory) (start count : Int) : Except Failure (List Line) :=
  Listing.lines m.toArray (Listing.outsideMemory memorySize) count.toNat start

end ChipEight
