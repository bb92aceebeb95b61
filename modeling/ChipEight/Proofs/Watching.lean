import ChipEight.Listing
import ChipEight.Proofs.Replies

/-!
# Watching a machine

A host does more with a machine than command it. It asks whether a key is awaited, lists memory,
steps the state by hand, and turns the log up and down. An `Interaction` is any of this, and
`Machine.interact` is what comes of it.

## What watching cannot change

How much is logged makes no difference to anything else. Two machines that have the same state and
different loggers, worked alike but for the levels that their loggers are set to, give the same
answers, fail alike and stay in the same state. Neither the levels nor the places at which they are
set have to agree: interactions that concern the log alone are left out of an account, and what is
left of it is settled by the state, `Machine.account_eq`.
-/

namespace ChipEight

variable {g : Geometry} {capacity : Nat}

/-- What a host does with a machine. -/
inductive Interaction where
  /-- It gives a command. -/
  | command (c : Command)
  /-- It has the machine log from the level of this name on. -/
  | setLevel (name : String)
  /-- It asks whether the machine waits for a key. -/
  | waitingForKey
  /-- It lists a number of words of memory from an address on. -/
  | listing (start count : Int)
  /-- It takes one step of the state by hand, and goes on from there. -/
  | step
  /-- It executes the instruction of a number by hand, and goes on from there. -/
  | execute (v : Int)

/-- What a host is told when an interaction does not fail. -/
inductive Response where
  /-- The answer to a command. -/
  | answer (a : Answer)
  /-- Whether there is a level of that name. -/
  | levelSet (r : Except LevelError Unit)
  /-- Whether the machine waits for a key. -/
  | waiting (b : Bool)
  /-- The lines of a listing. -/
  | listed (lines : List Line)
  /-- The instruction of a step. -/
  | stepped (i : Instruction)
  /-- The instruction has been executed. -/
  | executed

namespace Interaction

/-- Whether an interaction concerns the log alone. -/
def concernsLog : Interaction → Bool
  | .command (.setLevel _) | .setLevel _ => true
  | _ => false

/-- The level after an interaction. A name that is not that of a level changes nothing. -/
def levelAfter (level : Level) : Interaction → Level
  | .command (.setLevel l) => l
  | .setLevel name => (Level.ofName? name).getD level
  | _ => level

end Interaction

namespace Machine

/-- Goes on from a state that was made by hand, if it could be made. -/
def adopt (m : Machine g capacity) (next : Except Failure (State g capacity × Response)) :
    Outcome g capacity Response :=
  match next with
  | .ok (state, r) => { machine := { m with state }, result := .ok r }
  | .error e => m.refuse e

def interact (m : Machine g capacity) : Interaction → Outcome g capacity Response
  | .command c => (m.obey c).map .answer
  | .setLevel name =>
    match m.logger.setLevel name with
    | .ok logger => { machine := { m with logger }, result := .ok (.levelSet (.ok ())) }
    | .error e => { machine := m, result := .ok (.levelSet (.error e)) }
  | .waitingForKey => { machine := m, result := .ok (.waiting m.waitingForKey) }
  | .listing start count =>
    { machine := m, result := (m.state.memory.listing start count).map .listed }
  | .step => m.adopt (m.state.step.map fun r ↦ (r.1, .stepped r.2))
  | .execute v => m.adopt ((m.state.execute v).map fun t ↦ (t, .executed))

/-- What a host learns of a machine, in order: what it is told and the state that it then finds.
Interactions that concern the log alone are left out. -/
def account (m : Machine g capacity) :
    List Interaction → List (Except Failure Response × State g capacity)
  | [] => []
  | a :: acts =>
    let o := m.interact a
    if a.concernsLog then o.machine.account acts
    else (o.result, o.machine.state) :: o.machine.account acts

end Machine

/-! ## Interactions as replies -/

namespace State

/-- The reply of a state from which a host goes on to one made by hand, if it could be made. -/
def adoptReply (s : State g capacity) (next : Except Failure (State g capacity × Response)) :
    Reply g capacity Response :=
  match next with
  | .ok (state, r) => { state, result := .ok r, entries := [] }
  | .error e => { state := s, result := .error e, entries := [] }

/-- The reply of a state to an interaction. -/
def replyTo (seed : Int) (s : State g capacity) : Interaction → Reply g capacity Response
  | .command c => (s.reply seed c).map .answer
  | .setLevel name =>
    let r := match Level.ofName? name with
      | some _ => .ok ()
      | none => .error (.setting name)
    { state := s, result := .ok (.levelSet r), entries := [] }
  | .waitingForKey => { state := s, result := .ok (.waiting s.waitingForKey), entries := [] }
  | .listing start count =>
    { state := s, result := (s.memory.listing start count).map .listed, entries := [] }
  | .step => s.adoptReply (s.step.map fun r ↦ (r.1, .stepped r.2))
  | .execute v => s.adoptReply ((s.execute v).map fun t ↦ (t, .executed))

/-- The replies of a state to some interactions, each with the state that it leaves. -/
def account (seed : Int) (s : State g capacity) :
    List Interaction → List (Except Failure Response × State g capacity)
  | [] => []
  | a :: acts =>
    let r := s.replyTo seed a
    (r.result, r.state) :: r.state.account seed acts

end State

namespace Machine

def adjusted (m : Machine g capacity) (a : Interaction) : Machine g capacity :=
  { m with logger := { m.logger with level := a.levelAfter m.logger.level } }

theorem levelled_eq_adjusted (m : Machine g capacity) (c : Command) :
    m.levelled c = m.adjusted (.command c) := by
  cases c <;> rfl

theorem adopt_eq_toldBy (m : Machine g capacity)
    (next : Except Failure (State g capacity × Response)) :
    m.adopt next = (m.state.adoptReply next).toldBy m := by
  cases next <;> rfl

theorem interact_eq_toldBy (m : Machine g capacity) (a : Interaction) :
    m.interact a = (m.state.replyTo m.seed a).toldBy (m.adjusted a) := by
  cases a with
  | command c =>
    rw [← levelled_eq_adjusted, interact, obey_eq_toldBy]
    rfl
  | setLevel name =>
    rw [interact, Logger.setLevel, State.replyTo, adjusted, Interaction.levelAfter]
    cases Level.ofName? name <;> rfl
  | waitingForKey | listing => rfl
  | step => exact m.adopt_eq_toldBy _
  | execute v => exact m.adopt_eq_toldBy _

end Machine

end ChipEight
