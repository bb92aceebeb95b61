import ChipEight.CallStack
import ChipEight.Memory
import ChipEight.Random
import ChipEight.Sprite

/-!
# The state of a machine

All that an instruction can read or change. The dimensions of the screen and the capacity of the
call stack are parameters of the type: they belong to the machine and no instruction changes them.
The sizes of memory, registers, keys and screen are part of their types as well.

What is left to be said of a state, such as where the program counter may point, is a property of
the states that a machine can reach and not of the type: a host may set any 16-bit word.
-/

namespace ChipEight

/-- The registers `V0` to `VF`. -/
abbrev Registers := Vector Byte registerCount

/-- Which of the sixteen keys are down. -/
abbrev Keys := Vector Bool keyCount

/-- The state of a machine with the given screen and call depth. -/
@[ext] structure State (g : Geometry) (capacity : Nat) where
  /-- The random source. -/
  rng : Key
  /-- The memory. -/
  memory : Memory
  /-- The registers. -/
  registers : Registers
  /-- The index register. -/
  index : Word
  /-- The address of the next instruction. -/
  pc : Word
  /-- The addresses of the calls under way. -/
  stack : CallStack 16 capacity
  /-- The keys. -/
  keys : Keys
  /-- The screen. -/
  screen : Screen g
  /-- The timer that programs can read. -/
  delayTimer : Byte
  /-- The timer that sounds while it runs. -/
  soundTimer : Byte
deriving DecidableEq

namespace State

variable {g : Geometry} {capacity : Nat}

/-- The state in which a machine with the given random source starts. -/
def initial (g : Geometry) (capacity : Nat) (rng : Key) : State g capacity where
  rng
  memory := Memory.initial
  registers := Vector.replicate registerCount 0
  index := 0
  pc := BitVec.ofNat 16 programStart
  stack := CallStack.empty
  keys := Vector.replicate keyCount false
  screen := Screen.blank
  delayTimer := 0
  soundTimer := 0

def register (s : State g capacity) (x : Fin registerCount) : Byte := s.registers[x]

def keyDown (s : State g capacity) (k : Fin keyCount) : Bool := s.keys[k]

/-- The lowest key that is down. -/
def lowestKey? (s : State g capacity) : Option (Fin keyCount) :=
  (List.finRange keyCount).find? s.keyDown

/-- Moves the program counter on by some bytes, around the end of the address space. -/
def advance (s : State g capacity) (amount : Word) : State g capacity :=
  { s with pc := (s.pc + amount).address }

def proceed (s : State g capacity) : State g capacity := s.advance 2

/-- Moves on by one instruction, or by two if the condition holds. -/
def skipIf (s : State g capacity) (condition : Bool) : State g capacity :=
  s.advance (if condition then 4 else 2)

def setRegister (s : State g capacity) (x : Fin registerCount) (v : Byte) : State g capacity :=
  { s with registers := s.registers.set x v }

def setFlag (s : State g capacity) (flag : Bool) : State g capacity :=
  s.setRegister flagRegister (if flag then 1 else 0)

/-- Reports a program counter at which no whole instruction stands. -/
def checkPc (s : State g capacity) : Except Fault Unit := Memory.checkRange s.pc.toNat 2

/-- Counts both timers down by one, as far as zero. -/
def tickTimers (s : State g capacity) : State g capacity :=
  { s with
    delayTimer := BitVec.ofNat 8 (s.delayTimer.toNat - 1)
    soundTimer := BitVec.ofNat 8 (s.soundTimer.toNat - 1) }

/-- Copies a program into memory. Its length is checked before anything is written. -/
def loadRom (s : State g capacity) (rom : List Byte) : Except Fault (State g capacity) :=
  if maxRomSize < rom.length then
    .error { cause := .oversizedRom rom.length maxRomSize }
  else .ok { s with memory := s.memory.write programStart rom }

/-- Copies the program in a file into memory. -/
def loadRomFile (s : State g capacity) (files : Storage) (name : String) :
    Except Failure (State g capacity) :=
  match files.read name with
  | .ok rom => (s.loadRom rom).mapError .fault
  | .error .nullInName => .error (.fileName .nullInName)
  | .error reason => .error (.fault { cause := .unreadableRom name reason })

def updateKeys (s : State g capacity) (keys : List Bool) : Except Failure (State g capacity) :=
  if h : keys.length = keyCount then .ok { s with keys := ⟨keys.toArray, by simpa using h⟩ }
  else .error (.keyStates keys.length)

end State

end ChipEight
