import ChipEight.Execute
import ChipEight.Log.Logger
import ChipEight.Log.Progress

/-!
# Machines

A machine is a state together with what it needs to live with it: the seed it was made from, so that
it can be reset, and a logger. Its operations change the state, answer, and log.

## Outcomes

An operation gives the machine after it, its answer or the reason why it has none, and the records
that were let through, in order. A machine is there after every operation: one that fails leaves it
with the state from before, except that a failed tick has let the timers count.

## Ticks

A tick is one cycle of the machine. It differs from `State.step` in three ways only, all of which
concern faults: a fault is told where it happened, it is logged, and the timers count down even
then.
-/

namespace ChipEight

/-- Why a machine cannot be made. -/
inductive ConfigError where
  /-- The seed is outside the signed 64-bit numbers. -/
  | seed
  /-- The screen is not a whole number of bytes wide. -/
  | width (width : Int)
  /-- The screen has no rows. -/
  | height (height : Int)
  /-- The call stack has less than no room. -/
  | stackSize (capacity : Int)
deriving DecidableEq, Repr

def ConfigError.message : ConfigError → String
  | .seed => RangeError.int64.message
  | .width w => "screen width must be a positive multiple of 8, got " ++ Numeral.text w
  | .height h => "screen height must be positive, got " ++ Numeral.text h
  | .stackSize c => "invalid stack capacity " ++ Numeral.text c

/-- The screen of the given dimensions. The width is looked at first. -/
def Geometry.ofSize (width height : Int) : Except ConfigError Geometry :=
  if hw : 0 < width ∧ width % 8 = 0 then
    if hh : 0 < height then
      .ok { rowBytes := (width / 8).toNat, height := height.toNat
            rowBytes_pos := by omega, height_pos := by omega }
    else .error (.height height)
  else .error (.width width)

/-- What a machine is made from. -/
structure Config where
  /-- The screen. -/
  geometry : Geometry
  /-- The call depth. -/
  capacity : Nat
  /-- The seed of the random source. -/
  seed : Int
deriving DecidableEq, Repr

/-- Checks what a machine is to be made from: the seed, the screen, then the call depth. -/
def Config.check (width height seed stackSize : Int) : Except ConfigError Config :=
  if !fitsSigned 64 seed then .error .seed
  else
    match Geometry.ofSize width height with
    | .error e => .error e
    | .ok geometry =>
      if stackSize < 0 then .error (.stackSize stackSize)
      else .ok { geometry, capacity := stackSize.toNat, seed }

structure Machine (g : Geometry) (capacity : Nat) where
  /-- The seed that it was made from. -/
  seed : Int
  /-- Its state. -/
  state : State g capacity
  /-- Its logger. -/
  logger : Logger

/-- What an operation of a machine gives. -/
structure Outcome (g : Geometry) (capacity : Nat) (α : Type) where
  /-- The machine after the operation. -/
  machine : Machine g capacity
  /-- The answer. -/
  result : Except Failure α
  /-- The records of the operation. -/
  records : List String := []

namespace Machine

variable {g : Geometry} {capacity : Nat}

def new (c : Config) (logger : Logger) : Machine c.geometry c.capacity where
  seed := c.seed
  state := State.initial c.geometry c.capacity (Key.ofSeed c.seed)
  logger

/-- The machine with another state, which says so. -/
def announce (m : Machine g capacity) (state : State g capacity) (level : Level)
    (message : String) {α : Type} (result : Except Failure α) : Outcome g capacity α :=
  let (logger, records) := m.logger.log level message
  { machine := { m with state, logger }, result, records }

/-- The machine as it is, with a failure. -/
def refuse (m : Machine g capacity) {α : Type} (f : Failure) : Outcome g capacity α :=
  { machine := m, result := .error f }

def loadRom (m : Machine g capacity) (rom : List Byte) : Outcome g capacity Unit :=
  match m.state.loadRom rom with
  | .ok state =>
    m.announce state .info ("Loaded " ++ Numeral.text rom.length ++ " byte ROM") (.ok ())
  | .error f => m.refuse (.fault f)

def loadRomFile (m : Machine g capacity) (files : Storage) (name : String) :
    Outcome g capacity Unit :=
  match m.state.loadRomFile files name with
  | .ok state => m.announce state .info ("Loaded ROM " ++ name) (.ok ())
  | .error f => m.refuse f

def reset (m : Machine g capacity) : Outcome g capacity Unit :=
  m.announce (State.initial g capacity (Key.ofSeed m.seed)) .info "Machine reset" (.ok ())

def updateKeys (m : Machine g capacity) (keys : List Bool) : Outcome g capacity Unit :=
  match m.state.updateKeys keys with
  | .ok state => { machine := { m with state }, result := .ok () }
  | .error f => m.refuse f

/-- Whether the next instruction waits for a key and none is down. -/
def waitingForKey (m : Machine g capacity) : Bool := m.state.waitingForKey

def trace (pc : Word) (i : Instruction) : String :=
  Numeral.hexText 3 pc.toNat ++ "  " ++ String.ofList (Numeral.hex 4 i.raw) ++ "  " ++ i.assembly

/-- Ends a tick that failed: the timers have counted, and a fault is told its place and logged. -/
def faultTick (m : Machine g capacity) (state : State g capacity) (opcode : Option Opcode)
    (f : Fault) : Outcome g capacity Instruction :=
  let f := f.located state.pc.toNat (opcode.map fun o ↦ (o.value : Int))
  m.announce state .error ("Execution fault: " ++ f.message) (.error (.fault f))

def tick (m : Machine g capacity) : Outcome g capacity Instruction :=
  let state := m.state.tickTimers
  match state.fetch with
  | .error f => m.faultTick state none f
  | .ok opcode =>
    match opcode.decode with
    | .error f => m.faultTick state opcode f
    | .ok i =>
      match state.executeInstruction i with
      | .error (.fault f) => m.faultTick state opcode f
      | .error e => m.refuse e
      | .ok next => m.announce next .debug (trace state.pc i) (.ok i)

/-- Up to the given number of ticks, as many as go without a fault. The records that have been let
through so far are kept latest first. -/
def ticks : Nat → Machine g capacity → List String → Outcome g capacity Unit
  | 0, m, records => { machine := m, result := .ok (), records := records.reverse }
  | n + 1, m, records =>
    let first := m.tick
    let records := first.records.reverse ++ records
    match first.result with
    | .error e => { machine := first.machine, result := .error e, records := records.reverse }
    | .ok _ => ticks n first.machine records

/-- Runs a number of ticks and answers with it. A number below zero runs nothing. -/
def runTicks (m : Machine g capacity) (count : Int) : Outcome g capacity Nat :=
  let o := ticks count.toNat m []
  { machine := o.machine, result := o.result.map fun _ ↦ count.toNat, records := o.records }

/-- Runs a number of ticks and answers with it, with a progress bar if that is asked for. The bar is
made first, and a run for which there is no bar does not begin; in no other way does a bar change
what a run does. -/
def run (m : Machine g capacity) (count : Int) (progress : Bool) : Outcome g capacity Nat :=
  if progress then
    match ProgressBar.forTicks count none with
    | .ok _ => m.runTicks count
    | .error e => m.refuse (.range e)
  else m.runTicks count

end Machine

end ChipEight
