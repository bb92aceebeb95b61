import ChipEight.Decode
import ChipEight.Execute.Arithmetic
import ChipEight.Execute.Block
import ChipEight.Execute.Device
import ChipEight.Execute.Flow

/-!
# Execution

An instruction is executed in two steps. First its operation takes effect, which may fail. Then the
program counter is checked: an instruction that leaves it where no whole instruction stands is at
fault itself, whatever it has done, and its effect is dropped.

## The cycle

`step` is one cycle of the machine: the timers count down, the word at the program counter is
fetched and decoded, and the instruction is executed. It is a function on states and keeps no
record; a failed step has no state to give.
-/

namespace ChipEight.State

variable {g : Geometry} {capacity : Nat}

/-- Lets the operation of an instruction take effect. -/
def perform (s : State g capacity) (i : Instruction) : Except Failure (State g capacity) :=
  match i.operation with
  | .clearScreen => .ok s.clearScreen
  | .ret => s.ret
  | .jump => s.jump i.nnn
  | .call => s.call i.nnn
  | .skipEqualConst => i.operand.map fun v ↦ s.skipIf (s.register i.x == v)
  | .skipUnequalConst => i.operand.map fun v ↦ s.skipIf (s.register i.x != v)
  | .skipEqual => .ok (s.skipIf (s.register i.x == s.register i.y))
  | .loadConst => i.constant.map (s.loadConst i.x)
  | .addConst => i.operand.map (s.addConst i.x)
  | .copy => .ok (s.arithmetic .copy i.x i.y)
  | .or => .ok (s.arithmetic .or i.x i.y)
  | .and => .ok (s.arithmetic .and i.x i.y)
  | .xor => .ok (s.arithmetic .xor i.x i.y)
  | .add => .ok (s.arithmetic .add i.x i.y)
  | .sub => .ok (s.arithmetic .sub i.x i.y)
  | .shiftRight => .ok (s.arithmetic .shiftRight i.x i.y)
  | .subFrom => .ok (s.arithmetic .subFrom i.x i.y)
  | .shiftLeft => .ok (s.arithmetic .shiftLeft i.x i.y)
  | .skipUnequal => .ok (s.skipIf (s.register i.x != s.register i.y))
  | .setIndex => s.setIndex i.nnn
  | .jumpOffset => i.offset.map s.jumpOffset
  | .random => i.operand.map (s.random i.x)
  | .draw => s.draw i.x i.y i.n
  | .skipPressed => .ok (s.skipIf (s.namedKeyDown i.x))
  | .skipReleased => .ok (s.skipIf !(s.namedKeyDown i.x))
  | .readDelay => .ok (s.readDelay i.x)
  | .waitKey => .ok (s.waitKey i.x)
  | .setDelay => .ok (s.setDelay i.x)
  | .setSound => .ok (s.setSound i.x)
  | .addIndex => .ok (s.addIndex i.x)
  | .glyph => .ok (s.glyph i.x)
  | .decimal => (s.storeDecimal i.x).mapError .fault
  | .store => (s.store i.x).mapError .fault
  | .load => (s.load i.x).mapError .fault

/-- Executes an instruction: its operation takes effect, then the program counter is checked. -/
def executeInstruction (s : State g capacity) (i : Instruction) :
    Except Failure (State g capacity) := do
  let t ← s.perform i
  t.checkPc.mapError .fault
  return t

def execute (s : State g capacity) (v : Int) : Except Failure (State g capacity) := do
  s.executeInstruction (← decode v)

def fetch (s : State g capacity) : Except Fault Opcode := do
  s.checkPc
  return .ofBytes (s.memory.read s.pc.toNat) (s.memory.read (s.pc.toNat + 1))

/-- One cycle: the timers count down and one instruction is executed. -/
def step (s : State g capacity) : Except Failure (State g capacity × Instruction) := do
  let s := s.tickTimers
  let opcode ← s.fetch.mapError .fault
  let i ← opcode.decode.mapError .fault
  return (← s.executeInstruction i, i)

/-- Whether the next instruction waits for a key and none is down. -/
def waitingForKey (s : State g capacity) : Bool :=
  match s.fetch with
  | .error _ => false
  | .ok opcode =>
    match opcode.decode with
    | .error _ => false
    | .ok i => i.operation == .waitKey && s.lowestKey?.isNone

end ChipEight.State
