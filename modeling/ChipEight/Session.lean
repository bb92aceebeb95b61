import ChipEight.Machine

/-!
# Sessions

A host works a machine by giving it commands one after the other. A command never ends a session:
one that fails is answered with its failure, and the next command finds the machine that the failure
has left.

`Machine.after` is the machine at the end of a session and `Machine.outcomes` all that was said in
it. What holds of a machine whatever its history is said of `Machine.after`.
-/

namespace ChipEight

inductive Command where
  /-- Load a program from memory of the host. -/
  | loadRom (rom : List Byte)
  /-- Load a program from a file. -/
  | loadRomFile (files : Storage) (name : String)
  /-- Take over the states of the sixteen keys. -/
  | updateKeys (keys : List Bool)
  /-- Execute one instruction. -/
  | tick
  /-- Execute a number of instructions, with or without a progress bar. -/
  | run (count : Int) (progress : Bool)
  /-- Go back to the first state. -/
  | reset
  /-- Log from this level on. -/
  | setLevel (level : Level)

/-- What a machine answers to a command that does not fail. -/
inductive Answer where
  /-- The command has been carried out. -/
  | done
  /-- This instruction has been executed. -/
  | executed (i : Instruction)
  /-- This number of instructions have been executed. -/
  | count (n : Nat)
deriving DecidableEq, Repr

namespace Outcome

variable {g : Geometry} {capacity : Nat} {α β : Type}

def map (f : α → β) (o : Outcome g capacity α) : Outcome g capacity β where
  machine := o.machine
  result := o.result.map f
  records := o.records

end Outcome

namespace Machine

variable {g : Geometry} {capacity : Nat}

def obey (m : Machine g capacity) : Command → Outcome g capacity Answer
  | .loadRom rom => (m.loadRom rom).map fun _ ↦ .done
  | .loadRomFile files name => (m.loadRomFile files name).map fun _ ↦ .done
  | .updateKeys keys => (m.updateKeys keys).map fun _ ↦ .done
  | .tick => m.tick.map .executed
  | .run count progress => (m.run count progress).map .count
  | .reset => m.reset.map fun _ ↦ .done
  | .setLevel level =>
    { machine := { m with logger := { m.logger with level } }, result := .ok .done }

def after (m : Machine g capacity) (commands : List Command) : Machine g capacity :=
  commands.foldl (fun m c ↦ (m.obey c).machine) m

/-- The outcomes of some commands, each carried out by the machine that the one before has left. -/
def outcomes (m : Machine g capacity) : List Command → List (Outcome g capacity Answer)
  | [] => []
  | c :: commands => m.obey c :: outcomes (m.obey c).machine commands

@[simp] theorem after_nil (m : Machine g capacity) : m.after [] = m := rfl

@[simp] theorem after_cons (m : Machine g capacity) (c : Command) (commands : List Command) :
    m.after (c :: commands) = (m.obey c).machine.after commands := rfl

end Machine

end ChipEight
