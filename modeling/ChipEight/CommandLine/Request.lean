import ChipEight.CommandLine.Token

/-!
# Requests

A request is what a whole command line asks for: a program to run and settings to run it with.
Tokens are taken from left to right, and the first thing that is wrong ends the reading.

The first word that is no value of a switch names the program. Further words, and what only looks
like a switch, are kept until the end, and are reported only if everything else is in order. A later
setting replaces an earlier one.

## The end of the switches

The two dashes that end the switches belong to the program if they stand directly before or after
it, and are a further word otherwise. Joined to a switch by an equals sign they end nothing, but
leave the setting without a value.
-/

namespace ChipEight.CommandLine

/-- What a command line asks for. -/
structure Request where
  /-- The file that holds the program. -/
  rom : String
  /-- The settings. -/
  settings : Settings
deriving DecidableEq, Repr

/-- Why a command line is not a request. -/
inductive Stop where
  /-- It asks for help. -/
  | help
  /-- It is wrong. -/
  | usage (e : UsageError)
deriving DecidableEq, Repr

/-- What has been read of a command line. -/
structure Draft where
  /-- The program, once it is known. -/
  rom : Option String := none
  /-- The settings so far. -/
  settings : Settings := {}
  /-- The arguments without a meaning so far. -/
  extras : List String := []

namespace Draft

def keep (d : Draft) (arguments : List String) : Draft := { d with extras := d.extras ++ arguments }

def integer (s : Switch) (value : String) : Except Stop Int :=
  match Integer.read? value with
  | some v => .ok v
  | none => .error (.usage (.notInteger s value))

/-- The level that is the value of a switch; its name is read exactly. -/
def level (value : String) : Except Stop Level :=
  match Level.all.find? fun l ↦ l.name == value with
  | some l => .ok l
  | none => .error (.usage (.notLevel value))

/-- The settings with the value of a switch. -/
def assign (t : Settings) (s : Switch) (value : String) : Except Stop Settings :=
  match s with
  | .ticks => do return { t with ticks := some (← integer s value) }
  | .width => do return { t with width := some (← integer s value) }
  | .height => do return { t with height := some (← integer s value) }
  | .seed => do return { t with seed := some (← integer s value) }
  | .logLevel => do return { t with logLevel := some (← level value) }
  | .screenshot => .ok { t with screenshot := some (Storage.tidy value) }
  | .help | .ascii | .progress => .ok t

/-- The settings with the value that is joined to a switch. Two dashes are no value there: they take
away the one that the setting has. -/
def assignJoined (t : Settings) (s : Switch) (value : String) : Except Stop Settings :=
  if value = "--" then .ok (t.clear s) else assign t s value

def mark (t : Settings) (s : Switch) : Except Stop Settings :=
  match s with
  | .help => .error .help
  | .ascii => .ok { t with ascii := true }
  | .progress => .ok { t with progress := true }
  | _ => .ok t

/-- What letters behind a mark of one letter mean. They repeat the mark as long as they are its own
letter; anything else is a value, and so is having no letter where one is announced. -/
def cluster (s : Switch) (letters : List Char) : Stop :=
  match letters.dropWhile (· = 'h') with
  | [] => if letters.isEmpty then .usage (.ignoredValue s "") else .help
  | value => .usage (.ignoredValue s (String.ofList value))

def take (d : Draft) : List Token → Except Stop Draft
  | [] => .ok d
  | .word text :: .dashes words :: _ =>
    match d.rom with
    | none => .ok ({ d with rom := some text }.keep words)
    | some _ => .ok (d.keep (text :: "--" :: words))
  | .word text :: rest =>
    match d.rom with
    | none => take { d with rom := some text } rest
    | some _ => take (d.keep [text]) rest
  | .dashes words :: _ =>
    match d.rom, words with
    | none, first :: others => .ok ({ d with rom := some first }.keep others)
    | _, _ => .ok (d.keep ("--" :: words))
  | .unknown text :: rest => take (d.keep [text]) rest
  | .cluster s letters :: _ => .error (cluster s letters)
  | .switch s (some value) :: rest =>
    if s.takesValue then do take { d with settings := ← assignJoined d.settings s value } rest
    else .error (.usage (.ignoredValue s value))
  | .switch s none :: rest =>
    if s.takesValue then
      match rest with
      | .word value :: others => do take { d with settings := ← assign d.settings s value } others
      | _ => .error (.usage (.noValue s))
    else do take { d with settings := ← mark d.settings s } rest

end Draft

def Request.ofArguments (arguments : List String) : Except Stop Request := do
  let tokens ← (Token.ofArguments arguments).mapError .usage
  let draft ← Draft.take {} tokens
  match draft.rom with
  | none => throw (.usage .noRom)
  | some rom =>
    if draft.extras.isEmpty then return { rom := Storage.tidy rom, settings := draft.settings }
    else throw (.usage (.unrecognized draft.extras))

end ChipEight.CommandLine
