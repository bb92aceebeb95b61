import ChipEight.State

/-!
# Control flow

Jumps, calls, returns and skips. A jump or call takes its target from the instruction as it is;
whether an instruction stands there is checked after the instruction is done, as for every other.

A call leaves its own address on the stack, and a return moves on from it. The address of the next
instruction is therefore never stored.
-/

namespace ChipEight.State

variable {g : Geometry} {capacity : Nat}

/-- `1NNN`: jumps to an address, which has to fit a word. -/
def jump (s : State g capacity) (target : Int) : Except Failure (State g capacity) := do
  let pc ← (exactCell 16 target).mapError .range
  return { s with pc }

/-- `2NNN`: puts the program counter on the stack and jumps. -/
def call (s : State g capacity) (target : Int) : Except Failure (State g capacity) := do
  let stack ← (s.stack.pushAddress s.pc).mapError .fault
  jump { s with stack } target

/-- `00EE`: moves on from the call that was made last. -/
def ret (s : State g capacity) : Except Failure (State g capacity) := do
  let (stack, pc) ← s.stack.pop.mapError .fault
  return proceed { s with stack, pc }

/-- `BNNN`: jumps to an address plus `V0`, around the end of the address space. -/
def jumpOffset (s : State g capacity) (target : Word) : State g capacity :=
  { s with pc := (target + (s.register offsetRegister).setWidth 16).address }

/-- Whether the key that a register names is down. Only the last four bits name a key. -/
def namedKeyDown (s : State g capacity) (x : Fin registerCount) : Bool :=
  s.keyDown ⟨(s.register x).toNat % keyCount, Nat.mod_lt _ (by decide)⟩

end ChipEight.State
