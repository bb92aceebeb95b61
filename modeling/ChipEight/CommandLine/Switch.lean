import ChipEight.Log.Level
import ChipEight.MemoryMap

/-!
# Switches and settings

The switches that the command line knows, how each is spelled, and the settings that they make. A
switch is either a mark that stands by itself or is followed by one value.
-/

namespace ChipEight.CommandLine

/-- A switch of the command line. -/
inductive Switch where
  /-- Show help and stop. -/
  | help
  /-- The number of instructions to execute. -/
  | ticks
  /-- The screen width in pixels. -/
  | width
  /-- The screen height in pixels. -/
  | height
  /-- The seed of the random source. -/
  | seed
  /-- The level of the log. -/
  | logLevel
  /-- The file for a picture of the final screen. -/
  | screenshot
  /-- Print the final screen as text. -/
  | ascii
  /-- Show a progress bar. -/
  | progress
deriving DecidableEq, Repr

namespace Switch

def all : List Switch :=
  [.help, .ticks, .width, .height, .seed, .logLevel, .screenshot, .ascii, .progress]

def spellings : Switch → List String
  | .help => ["-h", "--help"]
  | .ticks => ["--ticks"]
  | .width => ["--width"]
  | .height => ["--height"]
  | .seed => ["--seed"]
  | .logLevel => ["--log-level"]
  | .screenshot => ["--screenshot"]
  | .ascii => ["--ascii"]
  | .progress => ["--progress"]

/-- Every spelling with its switch. -/
def table : List (String × Switch) :=
  all.flatMap fun s ↦ s.spellings.map fun spelling ↦ (spelling, s)

def takesValue : Switch → Bool
  | .help | .ascii | .progress => false
  | _ => true

/-- A switch as messages name it. -/
def display (s : Switch) : String := String.intercalate "/" s.spellings

end Switch

/-- What a command line asks for, apart from the program. A setting that has lost its value holds
nothing; no screenshot is asked for as long as its setting holds nothing. -/
structure Settings where
  /-- The number of instructions to execute. -/
  ticks : Option Int := some 600
  /-- The screen width in pixels. -/
  width : Option Int := some defaultWidth
  /-- The screen height in pixels. -/
  height : Option Int := some defaultHeight
  /-- The seed of the random source. -/
  seed : Option Int := some 0
  /-- The level of the log. -/
  logLevel : Option Level := some .info
  /-- The file for a picture of the final screen. -/
  screenshot : Option String := none
  /-- Whether to print the final screen as text. -/
  ascii : Bool := false
  /-- Whether to show a progress bar. -/
  progress : Bool := false
deriving DecidableEq, Repr

/-- The settings without the value of a switch. -/
def Settings.clear (t : Settings) : Switch → Settings
  | .ticks => { t with ticks := none }
  | .width => { t with width := none }
  | .height => { t with height := none }
  | .seed => { t with seed := none }
  | .logLevel => { t with logLevel := none }
  | .screenshot => { t with screenshot := none }
  | .help | .ascii | .progress => t

end ChipEight.CommandLine
