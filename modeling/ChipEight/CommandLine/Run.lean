import ChipEight.CommandLine.Request
import ChipEight.Picture.Screenshot

/-!
# Running a command line

A command line is checked, a machine is made, the program is loaded and run, and the final screen is
shown in the ways that were asked for. The whole of it is a function: what the command line says,
the host it runs on and the logger it writes through determine what is printed, what picture is
saved and how it ends.

## Endings

A wrong command line, among it one whose machine cannot be made, ends with status 2 before any file
is read. A program that cannot be loaded, or that is at fault, ends with status 1; after a fault the
screen is still shown, as it was before the faulty instruction.

A setting without a value, a seed outside the 64-bit numbers, a run too long for its progress bar, a
sprite on a screen that is too large for it and a picture that cannot be saved are no matter of
usage and end the run where they are met.
-/

namespace ChipEight.CommandLine

/-- What ends a run where it is met. -/
inductive Breakdown where
  /-- A setting that is needed has no value. -/
  | unset (s : Switch)
  /-- A machine cannot be made. -/
  | config (e : ConfigError)
  /-- A program cannot be looked for, or cannot be begun. -/
  | program (f : Failure)
  /-- A picture cannot be made or saved. -/
  | picture (e : PictureError)
deriving DecidableEq, Repr

/-- The complaint of the place where the value of a switch is first needed and there is none. The
places compare it, look up its name, or make the random source of it. -/
def Switch.unsetMessage : Switch → String
  | .ticks => "'<' not supported between instances of 'list' and 'int'"
  | .width | .height => "'<=' not supported between instances of 'list' and 'int'"
  | .logLevel => "'list' object has no attribute 'upper'"
  | .seed =>
    "PRNGKey accepts a scalar seed, but was given an array of shape (0,) != (). Use jax.vmap " ++
      "for batching"
  | .help | .screenshot | .ascii | .progress => ""

def Breakdown.message : Breakdown → String
  | .unset s => s.unsetMessage
  | .config e => e.message
  | .program f => f.message
  | .picture e => e.message

/-- How a run ends. -/
inductive Ending where
  /-- With a status for the caller. -/
  | exit (status : Nat)
  /-- In the middle. -/
  | broken (b : Breakdown)
deriving DecidableEq, Repr

structure Report where
  /-- How it ended. -/
  ending : Ending
  /-- What was printed. -/
  output : String := ""
  /-- What was printed as an error. -/
  complaint : String := ""
  /-- The picture that was saved, with the name of its file. -/
  image : Option (String × Screenshot) := none

def programName : String := "chip8vm"

def usageReport (e : UsageError) : Report where
  ending := .exit 2
  complaint := programName ++ ": error: " ++ e.message ++ "\n"

variable {g : Geometry} {capacity : Nat}

/-- The screen of a machine as text, if that was asked for. -/
def screenText (s : State g capacity) (wanted : Bool) : Except PictureError String := do
  if wanted then
    let bitmap ← Bitmap.ofPacked s.screen.toList g.width g.height
    return bitmap.text "#" "." ++ "\n"
  else return ""

/-- Shows the final screen: as text, then as a picture. -/
def present (t : Settings) (host : Host) (m : Machine g capacity) (status : Nat)
    (output : String) : Report :=
  match screenText m.state t.ascii with
  | .error e => { ending := .broken (.picture e), output }
  | .ok text =>
    let output := output ++ text
    match t.screenshot with
    | none => { ending := .exit status, output }
    | some file =>
      match Screenshot.save host file m.state.screen.toList g.width g.height
          Screenshot.defaultScale Scheme.classic.palette with
      | .error e => { ending := .broken (.picture e), output }
      | .ok shot =>
        let (_, records) := m.logger.log .info ("Screenshot saved: " ++ file)
        { ending := .exit status, output := output ++ String.join records
          image := some (file, shot) }

/-- Runs a machine that holds its program. -/
def runLoaded (t : Settings) (ticks : Int) (host : Host) (m : Machine g capacity)
    (output : String) : Report :=
  let ran := m.run ticks t.progress
  let output := output ++ String.join ran.records
  match ran.result with
  | .error (.fault _) => present t host ran.machine 1 output
  | .error f => { ending := .broken (.program f), output }
  | .ok count =>
    let (logger, records) := ran.machine.logger.log .info
      ("Executed " ++ Numeral.text count ++ " instructions, pc=" ++
        Numeral.hexText 3 ran.machine.state.pc.toNat)
    present t host { ran.machine with logger } 0 (output ++ String.join records)

def runMachine (r : Request) (ticks : Int) (host : Host) (m : Machine g capacity) : Report :=
  let loaded := m.loadRomFile host.toStorage r.rom
  let output := String.join loaded.records
  match loaded.result with
  | .ok _ => runLoaded r.settings ticks host loaded.machine output
  | .error (.fault f) =>
    let (_, records) := loaded.machine.logger.log .error ("Error loading ROM: " ++ f.message)
    { ending := .exit 1, output := output ++ String.join records }
  | .error f => { ending := .broken (.program f), output }

/-- The value of a setting, which has to be there. -/
def needed {α : Type} (s : Switch) : Option α → Except Report α
  | some v => .ok v
  | none => .error { ending := .broken (.unset s) }

def checkedConfig (width height seed : Int) : Except Report Config :=
  match Config.check width height seed defaultStackSize with
  | .ok c => .ok c
  | .error .seed => .error { ending := .broken (.config .seed) }
  | .error e => .error (usageReport (.config e))

/-- What the machine of some settings is made from. The seed, the width and the height are needed
in this order, and each is checked before the next one is needed. -/
def configOf (t : Settings) : Except Report Config := do
  let seed ← needed .seed t.seed
  let _ ← checkedConfig defaultWidth defaultHeight seed
  let width ← needed .width t.width
  let _ ← checkedConfig width defaultHeight seed
  let height ← needed .height t.height
  checkedConfig width height seed

/-- The length of the run and the level of the log of some settings, and what their machine is made
from. -/
def prepare (t : Settings) : Except Report (Int × Level × Config) := do
  let ticks ← needed .ticks t.ticks
  if ticks < 0 then throw (usageReport .negativeTicks)
  let level ← needed .logLevel t.logLevel
  return (ticks, level, ← configOf t)

def runRequest (r : Request) (host : Host) (logger : Logger) : Report :=
  match prepare r.settings with
  | .ok (ticks, level, c) => runMachine r ticks host (Machine.new c { logger with level })
  | .error report => report

def run (arguments : List String) (host : Host) (logger : Logger) : Report :=
  match Request.ofArguments arguments with
  | .error .help => { ending := .exit 0 }
  | .error (.usage e) => usageReport e
  | .ok r => runRequest r host logger

end ChipEight.CommandLine
