import ChipEight.Proofs.Runs

/-!
# Machines without their loggers

A machine talks to its logger and never listens to it. What becomes of its state, and what it
answers, is settled before the logger has heard of it. This file takes the two apart. A `Reply` is a
new state and an answer together with the entries that are to be logged, and `State.reply` is the
reply of a state to a command. It needs the seed of the machine, for the sake of resets, and nothing
else. An outcome is a reply that has been told to a logger; `Machine.obey_eq_toldBy` says so of
every command.

## Fresh starts

So what a machine says and does from here on depends on its state and its seed alone. No command
changes a seed, and a reset gives the first state of the seed. It follows that no history shows
through a reset: a machine that has been reset is a new machine, and everything that it is told from
then on has the same outcome as on a machine that was just made, whatever the loggers of the two.
-/

namespace ChipEight

variable {g : Geometry} {capacity : Nat} {α β : Type}

/-! ## Many entries -/

structure LogEntry where
  /-- How grave it is. -/
  level : Level
  /-- The message. -/
  message : String
deriving DecidableEq, Repr

namespace Logger

/-- Logs some entries, one after the other: the logger after them, and the records of those that are
let through. -/
def logAll (l : Logger) : List LogEntry → Logger × List String
  | [] => (l, [])
  | e :: entries =>
    let first := l.log e.level e.message
    let rest := first.1.logAll entries
    (rest.1, first.2 ++ rest.2)

theorem logAll_singleton (l : Logger) (level : Level) (message : String) :
    l.logAll [⟨level, message⟩] = l.log level message := by
  simp only [logAll, List.append_nil]

theorem logAll_append (l : Logger) (entries more : List LogEntry) :
    l.logAll (entries ++ more) =
      (((l.logAll entries).1.logAll more).1,
        (l.logAll entries).2 ++ ((l.logAll entries).1.logAll more).2) := by
  induction entries generalizing l with
  | nil => rfl
  | cons e entries ih => simp only [List.cons_append, logAll, ih, List.append_assoc]

end Logger

/-! ## Replies -/

/-- What an operation gives, with its entries not yet logged. -/
structure Reply (g : Geometry) (capacity : Nat) (α : Type) where
  /-- The state after the operation. -/
  state : State g capacity
  /-- The answer. -/
  result : Except Failure α
  /-- What is to be logged, in order. -/
  entries : List LogEntry

namespace Reply

/-- The outcome of an operation on a machine that gets some reply from its state. -/
def toldBy (r : Reply g capacity α) (m : Machine g capacity) : Outcome g capacity α where
  machine := { m with state := r.state, logger := (m.logger.logAll r.entries).1 }
  result := r.result
  records := (m.logger.logAll r.entries).2

/-- Goes on from a reply, unless it is a failure. -/
def andThen (r : Reply g capacity α) (next : α → State g capacity → Reply g capacity β) :
    Reply g capacity β :=
  match r.result with
  | .error e => { state := r.state, result := .error e, entries := r.entries }
  | .ok a => { next a r.state with entries := r.entries ++ (next a r.state).entries }

def map (f : α → β) (r : Reply g capacity α) : Reply g capacity β where
  state := r.state
  result := r.result.map f
  entries := r.entries

theorem toldBy_map (f : α → β) (r : Reply g capacity α) (m : Machine g capacity) :
    (r.map f).toldBy m = (r.toldBy m).map f := rfl

theorem toldBy_andThen (r : Reply g capacity α)
    (next : α → State g capacity → Reply g capacity β) (m : Machine g capacity) :
    (r.andThen next).toldBy m =
      (r.toldBy m).andThen fun a m' ↦ (next a m'.state).toldBy m' := by
  rw [andThen, Outcome.andThen, toldBy, toldBy]
  cases r.result with
  | error e => rfl
  | ok a => simp only [toldBy, Logger.logAll_append]

end Reply

namespace State

/-- The reply of a state that is asked to become another one: it does, unless there is none. -/
def becoming (s : State g capacity) (next : Except Failure (State g capacity))
    (entries : List LogEntry) : Reply g capacity Unit :=
  match next with
  | .ok t => { state := t, result := .ok (), entries }
  | .error e => { state := s, result := .error e, entries := [] }

def tickReply (s : State g capacity) : Reply g capacity Instruction :=
  match s.step with
  | .ok (t, i) => { state := t, result := .ok i, entries := [⟨.debug, Machine.trace s.pc i⟩] }
  | .error (.fault f) =>
    { state := s.tickTimers
      result := .error (.fault (s.locate f))
      entries := [⟨.error, "Execution fault: " ++ (s.locate f).message⟩] }
  | .error e => { state := s, result := .error e, entries := [] }

theorem tickReply_of_steps {s t : State g capacity} {operation : Operation}
    (hs : s.Steps operation t) :
    s.tickReply =
      { state := t
        result := .ok (s.opcode.withOperation operation)
        entries := [⟨.debug, Machine.trace s.pc (s.opcode.withOperation operation)⟩] } := by
  rw [tickReply, step_eq_ok_iff.mpr ⟨operation, hs, rfl⟩]

theorem tickReply_of_fault {s : State g capacity} {f : Fault}
    (hf : s.stepFailure? = some (.fault f)) :
    s.tickReply =
      { state := s.tickTimers
        result := .error (.fault (s.locate f))
        entries := [⟨.error, "Execution fault: " ++ (s.locate f).message⟩] } := by
  rw [tickReply, step_eq_error_iff.mpr hf]

theorem tickReply_of_range {s : State g capacity} {e : RangeError}
    (he : s.stepFailure? = some (.range e)) :
    s.tickReply = { state := s, result := .error (.range e), entries := [] } := by
  rw [tickReply, step_eq_error_iff.mpr he]

def ticksReply : Nat → State g capacity → Reply g capacity Unit
  | 0, s => { state := s, result := .ok (), entries := [] }
  | n + 1, s => s.tickReply.andThen fun _ t ↦ ticksReply n t

def runReply (s : State g capacity) (count : Int) (progress : Bool) : Reply g capacity Nat :=
  if progress then
    match ProgressBar.forTicks count none with
    | .ok _ => (s.ticksReply count.toNat).map fun _ ↦ count.toNat
    | .error e => { state := s, result := .error (.range e), entries := [] }
  else (s.ticksReply count.toNat).map fun _ ↦ count.toNat

def reply (seed : Int) (s : State g capacity) : Command → Reply g capacity Answer
  | .loadRom rom =>
    (s.becoming ((s.loadRom rom).mapError .fault)
      [⟨.info, "Loaded " ++ Numeral.text rom.length ++ " byte ROM"⟩]).map fun _ ↦ .done
  | .loadRomFile files name =>
    (s.becoming (s.loadRomFile files name) [⟨.info, "Loaded ROM " ++ name⟩]).map fun _ ↦ .done
  | .updateKeys keys => (s.becoming (s.updateKeys keys) []).map fun _ ↦ .done
  | .tick => s.tickReply.map .executed
  | .run count progress => (s.runReply count progress).map .count
  | .reset =>
    { state := initial g capacity (Key.ofSeed seed)
      result := .ok .done
      entries := [⟨.info, "Machine reset"⟩] }
  | .setLevel _ => { state := s, result := .ok .done, entries := [] }

end State

/-! ## Outcomes as replies -/

namespace Machine

theorem announce_eq_toldBy (m : Machine g capacity) (state : State g capacity) (level : Level)
    (message : String) (result : Except Failure α) :
    m.announce state level message result =
      Reply.toldBy { state, result, entries := [⟨level, message⟩] } m := by
  rw [announce, Reply.toldBy, Logger.logAll_singleton]

theorem loadRom_eq_toldBy (m : Machine g capacity) (rom : List Byte) :
    m.loadRom rom =
      (m.state.becoming ((m.state.loadRom rom).mapError .fault)
        [⟨.info, "Loaded " ++ Numeral.text rom.length ++ " byte ROM"⟩]).toldBy m := by
  rw [loadRom]
  cases m.state.loadRom rom with
  | ok t => exact announce_eq_toldBy ..
  | error f => rfl

theorem loadRomFile_eq_toldBy (m : Machine g capacity) (files : Storage) (name : String) :
    m.loadRomFile files name =
      (m.state.becoming (m.state.loadRomFile files name) [⟨.info, "Loaded ROM " ++ name⟩]).toldBy
        m := by
  rw [loadRomFile]
  cases m.state.loadRomFile files name with
  | ok t => exact announce_eq_toldBy ..
  | error e => rfl

theorem updateKeys_eq_toldBy (m : Machine g capacity) (keys : List Bool) :
    m.updateKeys keys = (m.state.becoming (m.state.updateKeys keys) []).toldBy m := by
  rw [updateKeys]
  cases m.state.updateKeys keys <;> rfl

theorem tick_eq_toldBy (m : Machine g capacity) : m.tick = m.state.tickReply.toldBy m := by
  rcases m.tick_cases with ⟨operation, t, hs, htick⟩ | ⟨f, hf, htick⟩ | ⟨length, hlength, htick⟩
  · rw [htick, State.tickReply_of_steps hs]
    exact announce_eq_toldBy ..
  · rw [htick, State.tickReply_of_fault hf]
    exact announce_eq_toldBy ..
  · rw [htick, State.tickReply_of_range hlength.stepFailure?_eq]
    rfl

theorem ticks_eq_toldBy (n : Nat) (m : Machine g capacity) :
    ticks n m [] = (m.state.ticksReply n).toldBy m := by
  induction n generalizing m with
  | zero => rfl
  | succ n ih =>
    rw [ticks_succ, State.ticksReply, Reply.toldBy_andThen, tick_eq_toldBy]
    simp only [ih]

theorem run_eq_toldBy (m : Machine g capacity) (count : Int) (progress : Bool) :
    m.run count progress = (m.state.runReply count progress).toldBy m := by
  have hrun : m.run count false =
      ((m.state.ticksReply count.toNat).map fun _ ↦ count.toNat).toldBy m := by
    rw [run_false, ticks_eq_toldBy, Reply.toldBy_map]
  cases progress with
  | false => exact hrun
  | true =>
    rw [run, State.runReply, if_pos rfl, if_pos rfl]
    cases ProgressBar.forTicks count none with
    | ok bar => exact hrun
    | error e => rfl

def levelled (m : Machine g capacity) : Command → Machine g capacity
  | .setLevel level => { m with logger := { m.logger with level } }
  | _ => m

/-- **The logger only listens.** The outcome of a command is the reply of the state, told to the
logger. -/
theorem obey_eq_toldBy (m : Machine g capacity) (c : Command) :
    m.obey c = (m.state.reply m.seed c).toldBy (m.levelled c) := by
  cases c with
  | loadRom rom => exact congrArg (Outcome.map _) (m.loadRom_eq_toldBy rom)
  | loadRomFile files name => exact congrArg (Outcome.map _) (m.loadRomFile_eq_toldBy files name)
  | updateKeys keys => exact congrArg (Outcome.map _) (m.updateKeys_eq_toldBy keys)
  | tick => exact congrArg (Outcome.map _) m.tick_eq_toldBy
  | run count progress => exact congrArg (Outcome.map _) (m.run_eq_toldBy count progress)
  | reset => exact congrArg (Outcome.map _) (m.announce_eq_toldBy ..)
  | setLevel level => rfl

/-! ## Fresh starts -/

theorem seed_after (m : Machine g capacity) (commands : List Command) :
    (m.after commands).seed = m.seed := by
  induction commands generalizing m with
  | nil => rfl
  | cons c commands ih => rw [after_cons, ih, seed_obey]

theorem outcomes_of_state_eq {m m' : Machine g capacity} (hseed : m'.seed = m.seed)
    (hstate : m'.state = m.state) (commands : List Command) :
    (m'.outcomes commands).map (fun o ↦ (o.result, o.machine.state)) =
      (m.outcomes commands).map fun o ↦ (o.result, o.machine.state) := by
  induction commands generalizing m m' with
  | nil => rfl
  | cons c commands ih =>
    have hresult : (m'.obey c).result = (m.obey c).result := by
      rw [obey_eq_toldBy, obey_eq_toldBy, hseed, hstate]
      rfl
    have hnext : (m'.obey c).machine.state = (m.obey c).machine.state := by
      rw [obey_eq_toldBy, obey_eq_toldBy, hseed, hstate]
      rfl
    have hkept : (m'.obey c).machine.seed = (m.obey c).machine.seed := by
      rw [seed_obey, seed_obey, hseed]
    rw [outcomes, outcomes, List.map_cons, List.map_cons, hresult, hnext, ih hkept hnext]

/-- **A reset is a fresh start.** However a machine was worked, a reset makes a new machine of it,
which has kept nothing but its logger. Whatever it is told from then on, it answers and does the
same as a machine that was just made, with any logger. -/
theorem reset_is_fresh (c : Config) (logger : Logger) (commands : List Command) :
    ((new c logger).after commands).reset.result = .ok () ∧
    ((new c logger).after commands).reset.machine =
      new c ((new c logger).after commands).reset.machine.logger ∧
    ∀ (logger' : Logger) (further : List Command),
      (((new c logger).after commands).reset.machine.outcomes further).map
          (fun o ↦ (o.result, o.machine.state)) =
        ((new c logger').outcomes further).map fun o ↦ (o.result, o.machine.state) := by
  have hseed : ((new c logger).after commands).seed = c.seed := seed_after ..
  have hnew : ((new c logger).after commands).reset.machine =
      new c ((new c logger).after commands).reset.machine.logger := by
    rw [reset, hseed, announce, hseed]
    rfl
  refine ⟨rfl, hnew, fun logger' further ↦ ?_⟩
  rw [hnew]
  apply outcomes_of_state_eq
  · rfl
  · rfl

end Machine

end ChipEight
