import ChipEight.State

/-!
# Screen, keys and timers

Instructions that work on what surrounds a program: the picture it shows, the keys it is given and
the timers that run beside it.
-/

namespace ChipEight.State

variable {g : Geometry} {capacity : Nat}

/-- `00E0`: clears the screen. -/
def clearScreen (s : State g capacity) : State g capacity :=
  proceed { s with screen := Screen.blank }

/-- The place that a register names along a side of the screen, wrapped to lie on it. The length of
the side has to be a 32-bit number. -/
def coordinate (s : State g capacity) (x : Fin registerCount) (length : Nat) :
    Except RangeError Nat :=
  if fitsSigned 32 length then .ok ((s.register x).toNat % length)
  else .error (.operand .divisor length)

/-- The sprite that two registers place on the screen. A row count below one is that of a sprite
without rows, but has to be a 32-bit number. -/
def sprite (s : State g capacity) (x y : Fin registerCount) (rows : Int) :
    Except RangeError Sprite := do
  let left ← s.coordinate x g.width
  let top ← s.coordinate y g.height
  if !fitsSigned 32 rows then throw (.operand .right rows)
  return { address := s.index.toNat, rows := rows.toNat, left, top }

/-- `DXYN`: draws a sprite; the flag tells whether it collides. -/
def draw (s : State g capacity) (x y : Fin registerCount) (rows : Int) :
    Except Failure (State g capacity) := do
  (Memory.checkRange s.index.toNat rows).mapError .fault
  let sprite ← (s.sprite x y rows).mapError .range
  let picture := s.screen.grid
  let mask := sprite.mask s.memory
  let t := s.setFlag (picture.collides mask)
  return proceed { t with screen := Screen.ofGrid (picture.flip mask) }

/-- `FX07`: reads the delay timer. -/
def readDelay (s : State g capacity) (x : Fin registerCount) : State g capacity :=
  (s.setRegister x s.delayTimer).proceed

/-- `FX15`: sets the delay timer. -/
def setDelay (s : State g capacity) (x : Fin registerCount) : State g capacity :=
  proceed { s with delayTimer := s.register x }

/-- `FX18`: sets the sound timer. -/
def setSound (s : State g capacity) (x : Fin registerCount) : State g capacity :=
  proceed { s with soundTimer := s.register x }

/-- `FX0A`: takes the lowest key that is down. As long as there is none nothing changes, and the
instruction is met again. -/
def waitKey (s : State g capacity) (x : Fin registerCount) : State g capacity :=
  match s.lowestKey? with
  | some k => (s.setRegister x (BitVec.ofNat 8 k)).proceed
  | none => s

end ChipEight.State
