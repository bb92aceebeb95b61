import ChipEight.Log.Level
import ChipEight.Text.Seconds

/-!
# The logger

A logger turns messages into records and drops those below its level. A record is one piece of text
that ends its line: a time stamp if the logger shows them, the level between brackets, the name of
the logger between brackets, and the message as it is.

## The clock

Time is a sequence of readings that the logger is given in advance. One reading is used up when the
logger is made and one for every record that carries a time stamp, so a message that is dropped
takes no time. A sequence that has come to its end repeats its last reading.
-/

namespace ChipEight

/-- The readings that a clock is going to give. -/
structure Clock where
  /-- The next reading, in seconds. -/
  now : Float
  /-- The readings after it. -/
  later : List Float

/-- The next reading of a clock, and the clock after it. -/
def Clock.read (c : Clock) : Float × Clock :=
  match c.later with
  | [] => (c.now, c)
  | t :: ts => (c.now, ⟨t, ts⟩)

/-- A logger. -/
structure Logger where
  /-- The name that its records carry. -/
  name : String
  /-- The least level that it lets through. -/
  level : Level
  /-- Whether it colours the level. -/
  colours : Bool
  /-- Whether its records carry time stamps. -/
  timestamps : Bool
  /-- The reading of the clock at which it was made. -/
  start : Float
  /-- The clock. -/
  clock : Clock

namespace Logger

/-- The name that the records of a machine carry unless told otherwise. -/
def defaultName : String := "chip8vm"

def make (name : String) (level : Level) (colours timestamps : Bool) (clock : Clock) : Logger :=
  let (start, clock) := clock.read
  { name, level, colours, timestamps, start, clock }

def plain (level : Level) : Logger := make defaultName level false false ⟨0, []⟩

/-- A logger at the level of the given name. -/
def make? (name level : String) (colours timestamps : Bool) (clock : Clock) :
    Except LevelError Logger :=
  match Level.ofName? level with
  | some l => .ok (make name l colours timestamps clock)
  | none => .error (.setting level)

def setLevel (l : Logger) (level : String) : Except LevelError Logger :=
  match Level.ofName? level with
  | some v => .ok { l with level := v }
  | none => .error (.setting level)

def lets (l : Logger) (level : Level) : Bool := decide (l.level ≤ level)

def isEnabledFor (l : Logger) (level : String) : Except LevelError Bool :=
  match Level.ofName? level with
  | some v => .ok (l.lets v)
  | none => .error .record

/-- The level as a record shows it, eight characters wide. -/
def tag (l : Logger) (level : Level) : String :=
  let padded := "".pushn ' ' (8 - level.name.length) ++ level.name
  if l.colours then level.colour ++ "[" ++ padded ++ "]" ++ plainColour else "[" ++ padded ++ "]"

/-- The record of a message behind a time stamp. -/
def record (l : Logger) (stamp : String) (level : Level) (message : String) : String :=
  stamp ++ l.tag level ++ "[" ++ l.name ++ "] " ++ message ++ "\n"

/-- Logs a message: the logger after it, and the record if the message is let through. -/
def log (l : Logger) (level : Level) (message : String) : Logger × List String :=
  if l.lets level then
    if l.timestamps then
      let (now, clock) := l.clock.read
      ({ l with clock }, [l.record ("[" ++ Seconds.text (now - l.start) ++ "s]") level message])
    else (l, [l.record "" level message])
  else (l, [])

/-- Logs a message at the level of the given name. -/
def logNamed (l : Logger) (level message : String) : Except LevelError (Logger × List String) :=
  match Level.ofName? level with
  | some v => .ok (l.log v message)
  | none => .error .record

end Logger

end ChipEight
