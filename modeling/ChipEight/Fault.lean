import ChipEight.MemoryMap
import ChipEight.Storage
import ChipEight.Text.Numeral

/-!
# Faults

A fault is what the machine reports when a program or an instruction cannot be carried out. It has a
cause and, if it was met while executing, the place where it happened: the program counter and the
opcode, each as far as it is known.

## Kinds

Faults fall into kinds, and the kinds form a tree: a stack overflow is stack misuse, stack misuse is
an execution fault, and every fault is a machine fault. `FaultKind.lineage` lists a kind with
everything it also is, so that a host may handle as much or as little as it likes at once. Only
execution faults have a place.

## Causes

A cause carries the numbers of its case and nothing else; the wording is in `Cause.text` alone. The
machine itself reports every cause but `Cause.stated`, which lets a host report a fault of some kind
in its own words.
-/

namespace ChipEight

/-- The kinds of faults. -/
inductive FaultKind where
  | machine
  | romLoad
  | oversizedRom
  | execution
  | stack
  | stackOverflow
  | stackUnderflow
  | invalidRegister
  | unknownOpcode
  | memoryAccess
deriving DecidableEq, Repr

namespace FaultKind

/-- A kind and, after it, all kinds that it is a case of. -/
def lineage : FaultKind → List FaultKind
  | .machine => [.machine]
  | .romLoad => [.romLoad, .machine]
  | .oversizedRom => [.oversizedRom, .romLoad, .machine]
  | .execution => [.execution, .machine]
  | .stack => [.stack, .execution, .machine]
  | .stackOverflow => [.stackOverflow, .stack, .execution, .machine]
  | .stackUnderflow => [.stackUnderflow, .stack, .execution, .machine]
  | .invalidRegister => [.invalidRegister, .execution, .machine]
  | .unknownOpcode => [.unknownOpcode, .execution, .machine]
  | .memoryAccess => [.memoryAccess, .execution, .machine]

/-- Whether faults of this kind happen while an instruction is executed. -/
def isExecution (k : FaultKind) : Bool := k.lineage.contains .execution

end FaultKind

/-- What went wrong. -/
inductive Cause where
  /-- A host's own report of a fault of some kind. -/
  | stated (kind : FaultKind) (text : String)
  /-- A program's file could not be read. -/
  | unreadableRom (name : String) (reason : AccessError)
  /-- A program is longer than the space for it. -/
  | oversizedRom (size limit : Int)
  /-- A call was made at full depth. -/
  | stackOverflow (capacity : Nat)
  /-- A return was made outside every call. -/
  | stackUnderflow
  /-- The top of an empty stack was asked for. -/
  | stackEmpty
  /-- A register operand is not one of the sixteen. -/
  | invalidRegister (index : Int)
  /-- A word is no instruction. -/
  | unknownOpcode (value : Int)
  /-- Some of the given bytes lie outside memory. -/
  | memoryAccess (address length : Int)
deriving DecidableEq, Repr

namespace Cause

def kind : Cause → FaultKind
  | .stated kind _ => kind
  | .unreadableRom _ _ => .romLoad
  | .oversizedRom _ _ => .oversizedRom
  | .stackOverflow _ => .stackOverflow
  | .stackUnderflow => .stackUnderflow
  | .stackEmpty => .stackUnderflow
  | .invalidRegister _ => .invalidRegister
  | .unknownOpcode _ => .unknownOpcode
  | .memoryAccess _ _ => .memoryAccess

def text : Cause → String
  | .stated _ text => text
  | .unreadableRom name reason => "cannot read ROM " ++ name ++ ": " ++ reason.message name
  | .oversizedRom size limit =>
    "ROM is " ++ Numeral.text size ++ " bytes, maximum is " ++ Numeral.text limit ++ " bytes"
  | .stackOverflow capacity =>
    "stack overflow, capacity " ++ Numeral.text capacity ++ " exhausted"
  | .stackUnderflow => "stack underflow, pop from empty stack"
  | .stackEmpty => "stack is empty"
  | .invalidRegister index => "invalid register index " ++ Numeral.text index
  | .unknownOpcode value => "unknown opcode " ++ Numeral.hexText 4 value
  | .memoryAccess address length =>
    "memory access out of bounds at " ++ Numeral.hexText 3 address ++
      " (length " ++ Numeral.text length ++ ")"

end Cause

/-- A cause with the place where it was met. -/
structure Fault where
  /-- What went wrong. -/
  cause : Cause
  /-- The program counter, if it is known. -/
  pc : Option Int := none
  /-- The opcode, if it is known. -/
  opcode : Option Int := none
deriving DecidableEq, Repr

namespace Fault

/-- The fault of a word that is no instruction; it knows its opcode from the start. -/
def unknownOpcode (value : Int) : Fault :=
  { cause := .unknownOpcode value, opcode := some value }

def memoryAccess (address length : Int) : Fault := { cause := .memoryAccess address length }

def kind (f : Fault) : FaultKind := f.cause.kind

/-- The known parts of the place of a fault. -/
def location (f : Fault) : List String :=
  (f.pc.map fun v ↦ "pc=" ++ Numeral.hexText 3 v).toList ++
    (f.opcode.map fun v ↦ "opcode=" ++ Numeral.hexText 4 v).toList

/-- A fault in words, the known parts of its place in brackets behind the cause. -/
def message (f : Fault) : String :=
  if f.kind.isExecution && !f.location.isEmpty then
    f.cause.text ++ " (" ++ String.intercalate ", " f.location ++ ")"
  else f.cause.text

/-- Fills in the parts of the place that a fault does not know yet. -/
def located (f : Fault) (pc : Int) (opcode : Option Int) : Fault :=
  { f with pc := f.pc <|> some pc, opcode := f.opcode <|> opcode }

@[simp] theorem kind_located (f : Fault) (pc : Int) (opcode : Option Int) :
    (f.located pc opcode).kind = f.kind := rfl

@[simp] theorem cause_located (f : Fault) (pc : Int) (opcode : Option Int) :
    (f.located pc opcode).cause = f.cause := rfl

end Fault

end ChipEight
