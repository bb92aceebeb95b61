import ChipEight.CommandLine.Switch
import ChipEight.Machine
import ChipEight.Text.Integer

/-!
# Tokens of a command line

Every argument is first taken by itself. It is a word, or a switch, perhaps with a value behind an
equals sign, or it looks like a switch and is none. A switch may be cut short as long as what is
left of it fits no other.

The first argument that is just two dashes ends the switches: everything after it is a word.

## What a dash does not make a switch

A dash alone, a negative number, and anything with a blank in it that is no switch are words.
-/

namespace ChipEight.CommandLine

/-- What is wrong with a command line. -/
inductive UsageError where
  /-- A shortened switch could be several. -/
  | ambiguous (text : String) (candidates : List String)
  /-- A switch has no value. -/
  | noValue (s : Switch)
  /-- A mark has a value. -/
  | ignoredValue (s : Switch) (value : String)
  /-- A value is no whole number. -/
  | notInteger (s : Switch) (value : String)
  /-- A value is not one of the levels. -/
  | notLevel (value : String)
  /-- No program is given. -/
  | noRom
  /-- Some arguments have no meaning. -/
  | unrecognized (arguments : List String)
  /-- The number of instructions is below zero. -/
  | negativeTicks
  /-- No machine can be made with these settings. -/
  | config (e : ConfigError)
deriving DecidableEq, Repr

namespace UsageError

private def about (s : Switch) (complaint : String) : String :=
  "argument " ++ s.display ++ ": " ++ complaint

def message : UsageError → String
  | .ambiguous text candidates =>
    "ambiguous option: " ++ text ++ " could match " ++ String.intercalate ", " candidates
  | .noValue s => about s "expected one argument"
  | .ignoredValue s value => about s ("ignored explicit argument " ++ Quoted.quoted value)
  | .notInteger s value => about s ("invalid int value: " ++ Quoted.quoted value)
  | .notLevel value =>
    about .logLevel ("invalid choice: " ++ Quoted.quoted value ++ " (choose from " ++
      String.intercalate ", " (Level.all.map fun l ↦ Quoted.quoted l.name) ++ ")")
  | .noRom => "the following arguments are required: rom"
  | .unrecognized arguments => "unrecognized arguments: " ++ String.intercalate " " arguments
  | .negativeTicks => "--ticks must not be negative"
  | .config e => e.message

end UsageError

/-- An argument, taken by itself. -/
inductive Token where
  /-- A word: the program, or the value of a switch. -/
  | word (text : String)
  /-- A switch, and a value that is joined to it by an equals sign. -/
  | switch (s : Switch) (joined : Option String)
  /-- A switch of one letter and what stands behind the letter, an equals sign left out. -/
  | cluster (s : Switch) (letters : List Char)
  /-- What looks like a switch and is none. -/
  | unknown (text : String)
  /-- The end of the switches, with the words behind it. -/
  | dashes (words : List String)
deriving DecidableEq, Repr

namespace Token

/-- The parts of a text before and after its first equals sign. -/
def splitEquals (cs : List Char) : Option (List Char × List Char) :=
  match cs.dropWhile (· ≠ '=') with
  | [] => none
  | _ :: after => some (cs.takeWhile (· ≠ '='), after)

/-- Whether a text is a negative number: whole, or with digits behind a point. -/
def isNegativeNumber (cs : List Char) : Bool :=
  let isDigit := fun c ↦ (Integer.digit? c).isSome
  match cs with
  | '-' :: rest =>
    let body := if rest.getLast? = some '\n' then rest.dropLast else rest
    let fraction := body.dropWhile isDigit
    match fraction with
    | [] => !body.isEmpty
    | '.' :: digits => !digits.isEmpty && digits.all isDigit
    | _ => false
  | _ => false

/-- What a text could be short for: every spelling that it fits, and what it would then be. -/
def candidates (cs : List Char) : List (String × Token) :=
  match cs with
  | '-' :: '-' :: _ =>
    let (front, joined) := match splitEquals cs with
      | some (front, value) => (front, some (String.ofList value))
      | none => (cs, none)
    (Switch.table.filter fun e ↦ front.isPrefixOf e.1.toList).map fun e ↦
      (e.1, .switch e.2 joined)
  | '-' :: letter :: letters =>
    (Switch.table.filter fun e ↦ e.1.toList = ['-', letter]).map fun e ↦
      (e.1, .cluster e.2 letters)
  | _ => []

/-- What an argument is that starts with a dash and is no full spelling of a switch. -/
def ofDashed (text : String) : Except UsageError Token :=
  match candidates text.toList with
  | [(_, token)] => .ok token
  | [] =>
    if isNegativeNumber text.toList || text.toList.contains ' ' then .ok (.word text)
    else .ok (.unknown text)
  | several => .error (.ambiguous text (several.map (·.1)))

/-- What an argument is in front of the end of the switches. -/
def ofArgument (text : String) : Except UsageError Token :=
  match text.toList with
  | '-' :: _ :: _ =>
    match Switch.table.lookup text with
    | some s => .ok (.switch s none)
    | none =>
      match splitEquals text.toList with
      | some (front, value) =>
        match Switch.table.lookup (String.ofList front) with
        | some s =>
          match front with
          | [_, _] => .ok (.cluster s value)
          | _ => .ok (.switch s (some (String.ofList value)))
        | none => ofDashed text
      | none => ofDashed text
  | _ => .ok (.word text)

/-- What the arguments of a command line are. -/
def ofArguments : List String → Except UsageError (List Token)
  | [] => .ok []
  | text :: rest =>
    if text = "--" then .ok [.dashes rest]
    else do
      let first ← ofArgument text
      let others ← ofArguments rest
      return first :: others

end Token

end ChipEight.CommandLine
