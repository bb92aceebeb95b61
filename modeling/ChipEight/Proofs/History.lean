import ChipEight.Proofs.Cycle
import ChipEight.Session

/-!
# What has happened in a session

The state of a machine does not tell how it came about. This file looks back on a session as the
list of its ticks since the last reset, `Machine.history`, whether they were asked for one by one or
by a run, and whether they executed an instruction or faulted. A tick that is refused, which happens
to sprites on oversized screens, has left nothing to look back on and is not among them.

## Induction along a session

A session is made of few things: ticks, which succeed or fault, programs that are loaded, new states
of the keys, and new beginnings. `KeptByCommands` collects what has to be shown of them, and
`Machine.after_keeps` concludes from it that a property of states and of what led to them holds at
the end of every session. `Kept` is the case of a property that has nothing to do with memory, and
`Machine.after_induction` the conclusion from it. What speaks of the beginning of a session is lost
at a reset; for it there is `Machine.after_keeps_of_no_reset`. Few other proofs have to look at
commands, and those share `KeptByTicks`, which is all that a run needs.
-/

namespace ChipEight

variable {g : Geometry} {capacity : Nat}

/-- The make of a machine that asks for nothing but a seed. -/
def Config.usual (seed : Int) : Config where
  geometry := { rowBytes := 8, height := defaultHeight, rowBytes_pos := by decide
                height_pos := by decide }
  capacity := defaultStackSize
  seed

/-- A tick that is looked back on. -/
structure Tick (g : Geometry) (capacity : Nat) where
  /-- The state before it. -/
  before : State g capacity
  /-- The instruction that it has executed, or why it failed. -/
  result : Except Failure Instruction
  /-- The state after it. -/
  after : State g capacity

/-- Whether a tick has succeeded with an instruction of the given operation. -/
def Tick.Executes (r : Tick g capacity) (operation : Operation) : Prop :=
  r.result.toOption.map Instruction.operation = some operation

instance (r : Tick g capacity) (operation : Operation) : Decidable (r.Executes operation) :=
  inferInstanceAs (Decidable (_ = _))

/-- The tick of a cycle that has come to its end. -/
def State.okTick (s : State g capacity) (operation : Operation) (t : State g capacity) :
    Tick g capacity :=
  ⟨s, .ok (s.opcode.withOperation operation), t⟩

/-- The tick of a cycle that has stopped at a fault. -/
def State.errorTick (s : State g capacity) (e : Failure) : Tick g capacity :=
  ⟨s, .error e, s.tickTimers⟩

theorem State.executes_okTick {s t : State g capacity} {operation other : Operation} :
    (s.okTick operation t).Executes other ↔ operation = other :=
  Option.some_inj

theorem State.not_executes_errorTick {s : State g capacity} {e : Failure} {other : Operation} :
    ¬(s.errorTick e).Executes other :=
  Option.some_ne_none _ ∘ Eq.symm

namespace Machine

/-! ## Histories -/

def nextTick (m : Machine g capacity) : Tick g capacity :=
  ⟨m.state, m.tick.result, m.tick.machine.state⟩

/-- The ticks of a run of at most the given number of ticks. One that faults is the last, and one
that is refused is left out. -/
def nextTicks : Nat → Machine g capacity → List (Tick g capacity)
  | 0, _ => []
  | n + 1, m =>
    match m.tick.result with
    | .ok _ => m.nextTick :: nextTicks n m.tick.machine
    | .error (.fault _) => [m.nextTick]
    | .error _ => []

theorem nextTicks_of_steps {m : Machine g capacity} {t : State g capacity}
    {operation : Operation} (hs : m.state.Steps operation t) (n : Nat) :
    m.nextTicks (n + 1) = m.state.okTick operation t :: nextTicks n m.tick.machine := by
  rw [nextTicks, nextTick, tick_of_steps hs]
  rfl

theorem nextTicks_of_fault {m : Machine g capacity} {f : Fault}
    (hf : m.state.stepFailure? = some (.fault f)) (n : Nat) :
    m.nextTicks (n + 1) = [m.state.errorTick (.fault (f.located m.state.pc.toNat
      (m.state.fetch.toOption.map fun o ↦ (o.value : Int))))] := by
  rw [nextTicks, nextTick, tick_of_step_error hf]
  rfl

theorem nextTicks_of_range {m : Machine g capacity} {e : RangeError}
    (he : m.state.stepFailure? = some (.range e)) (n : Nat) : m.nextTicks (n + 1) = [] := by
  rw [nextTicks, tick_of_step_error he]
  rfl

def runBegins (count : Int) (progress : Bool) : Bool :=
  !progress || (ProgressBar.forTicks count none).toBool

/-- The ticks since the last reset, after one more command. -/
def remember (m : Machine g capacity) (past : List (Tick g capacity)) :
    Command → List (Tick g capacity)
  | .tick => past ++ m.nextTicks 1
  | .run count progress =>
    past ++ if runBegins count progress then m.nextTicks count.toNat else []
  | .reset => []
  | .loadRom _ | .loadRomFile _ _ | .updateKeys _ | .setLevel _ => past

def history (m : Machine g capacity) (past : List (Tick g capacity)) :
    List Command → List (Tick g capacity)
  | [] => past
  | c :: commands => (m.obey c).machine.history (m.remember past c) commands

theorem run_eq (m : Machine g capacity) (count : Int) (progress : Bool) :
    (m.run count progress).machine =
      if runBegins count progress then (ticks count.toNat m []).machine else m := by
  rw [run, runBegins]
  cases progress with
  | false => rfl
  | true => cases ProgressBar.forTicks count none <;> rfl

end Machine

/-! ## What loading and the keys change -/

namespace State

theorem eq_of_loadRom {s t : State g capacity} {rom : List Byte} (h : s.loadRom rom = .ok t) :
    rom.length ≤ maxRomSize ∧ t = { s with memory := s.memory.write programStart rom } := by
  rw [loadRom] at h
  split at h
  · cases h
  · next hle => exact ⟨Nat.not_lt.mp hle, (Except.ok.inj h).symm⟩

theorem eq_of_loadRomFile {s t : State g capacity} {files : Storage} {name : String}
    (h : s.loadRomFile files name = .ok t) :
    ∃ rom : List Byte, rom.length ≤ maxRomSize ∧
      t = { s with memory := s.memory.write programStart rom } := by
  rw [loadRomFile] at h
  cases hread : files.read name with
  | error reason => cases reason <;> simp [hread] at h
  | ok rom =>
    rw [hread] at h
    cases hrom : s.loadRom rom with
    | error f =>
      simp only [hrom] at h
      cases h
    | ok t' =>
      simp only [hrom] at h
      obtain rfl := Except.ok.inj h
      exact ⟨rom, eq_of_loadRom hrom⟩

theorem eq_of_updateKeys {s t : State g capacity} {keys : List Bool}
    (h : s.updateKeys keys = .ok t) : ∃ keys, t = { s with keys } := by
  rw [updateKeys] at h
  split at h
  · exact ⟨_, (Except.ok.inj h).symm⟩
  · cases h

end State

/-! ## Induction along a session -/

/-- A property of a state and of the ticks that led to it which no tick can break. -/
structure KeptByTicks (P : State g capacity → List (Tick g capacity) → Prop) : Prop where
  /-- A tick that succeeds. -/
  okTick {s t past operation} (h : P s past) (hs : s.Steps operation t) :
    P t (past ++ [s.okTick operation t])
  /-- A tick that faults. -/
  errorTick {s past f} (h : P s past) (hf : s.stepFailure? = some (.fault f)) :
    P s.tickTimers (past ++ [s.errorTick (.fault (f.located s.pc.toNat
      (s.fetch.toOption.map fun o ↦ (o.value : Int))))])

/-- A property of a state and of the ticks that led to it which nothing that happens between two
resets can break. -/
structure Kept (P : State g capacity → List (Tick g capacity) → Prop) : Prop
    extends KeptByTicks P where
  /-- A change of the memory. -/
  memory {s past} (h : P s past) (memory : Memory) : P { s with memory } past
  /-- A change of the keys. -/
  keys {s past} (h : P s past) (keys : Keys) : P { s with keys } past

/-- A property of a state and of the ticks that led to it which no command but a reset can break. Of
the changes of the memory it has to survive those that loading a program makes. -/
structure KeptByCommands (P : State g capacity → List (Tick g capacity) → Prop) : Prop
    extends KeptByTicks P where
  /-- A program that is loaded. -/
  rom {s past} (h : P s past) {rom : List Byte} (hrom : rom.length ≤ maxRomSize) :
    P { s with memory := s.memory.write programStart rom } past
  /-- A change of the keys. -/
  keys {s past} (h : P s past) (keys : Keys) : P { s with keys } past

theorem Kept.keptByCommands {P : State g capacity → List (Tick g capacity) → Prop}
    (hP : Kept P) : KeptByCommands P where
  toKeptByTicks := hP.toKeptByTicks
  rom h _ _ := hP.memory h _
  keys := hP.keys

namespace Machine

variable {P : State g capacity → List (Tick g capacity) → Prop}
  {m : Machine g capacity} {past : List (Tick g capacity)}

theorem seed_tick (m : Machine g capacity) : m.tick.machine.seed = m.seed := by
  rcases m.tick_cases with ⟨operation, t, -, htick⟩ | ⟨f, -, htick⟩ | ⟨length, -, htick⟩
  all_goals
    rw [htick]
    rfl

theorem seed_ticks (n : Nat) (m : Machine g capacity) (records : List String) :
    (ticks n m records).machine.seed = m.seed := by
  induction n generalizing m records with
  | zero => rfl
  | succ n ih =>
    rw [ticks]
    cases m.tick.result with
    | error e => exact m.seed_tick
    | ok i => rw [ih, seed_tick]

theorem seed_obey (m : Machine g capacity) (c : Command) : (m.obey c).machine.seed = m.seed := by
  cases c with
  | loadRom rom =>
    show (m.loadRom rom).machine.seed = m.seed
    rw [loadRom]
    cases m.state.loadRom rom <;> rfl
  | loadRomFile files name =>
    show (m.loadRomFile files name).machine.seed = m.seed
    rw [loadRomFile]
    cases m.state.loadRomFile files name <;> rfl
  | updateKeys keys =>
    show (m.updateKeys keys).machine.seed = m.seed
    rw [updateKeys]
    cases m.state.updateKeys keys <;> rfl
  | tick => exact m.seed_tick
  | run count progress =>
    show (m.run count progress).machine.seed = m.seed
    rw [run_eq]
    split
    · exact seed_ticks ..
    · rfl
  | reset | setLevel => rfl

theorem ticks_kept (hP : KeptByTicks P) (n : Nat) (m : Machine g capacity)
    (past : List (Tick g capacity)) (records : List String) (h : P m.state past) :
    P (ticks n m records).machine.state (past ++ m.nextTicks n) := by
  induction n generalizing m past records with
  | zero => rwa [nextTicks, List.append_nil]
  | succ n ih =>
    -- both recursions look at how the first tick has ended
    rcases m.tick_cases with ⟨operation, t, hs, htick⟩ | ⟨f, hf, htick⟩ | ⟨length, hlength, htick⟩
    · rw [nextTicks_of_steps hs, List.append_cons, ticks, htick]
      exact ih _ _ _ (hP.okTick h hs)
    · rw [nextTicks_of_fault hf, ticks, htick]
      exact hP.errorTick h hf
    · rw [nextTicks_of_range hlength.stepFailure?_eq, List.append_nil, ticks, htick]
      exact h

theorem machine_ticks_one (m : Machine g capacity) (records : List String) :
    (ticks 1 m records).machine = m.tick.machine := by
  rw [ticks]
  cases m.tick.result <;> rfl

theorem tick_kept (hP : KeptByTicks P) (h : P m.state past) :
    P m.tick.machine.state (past ++ m.nextTicks 1) := by
  rw [← m.machine_ticks_one []]
  exact ticks_kept hP 1 m past [] h

theorem run_kept (hP : KeptByTicks P) (count : Int) (progress : Bool) (h : P m.state past) :
    P (m.run count progress).machine.state (m.remember past (.run count progress)) := by
  rw [run_eq, remember]
  split
  · exact ticks_kept hP _ _ _ _ h
  · rwa [List.append_nil]

theorem loadRom_kept (hP : KeptByCommands P) (rom : List Byte) (h : P m.state past) :
    P (m.loadRom rom).machine.state past := by
  rw [loadRom]
  cases hrom : m.state.loadRom rom with
  | error f => exact h
  | ok t =>
    obtain ⟨hle, rfl⟩ := State.eq_of_loadRom hrom
    exact hP.rom h hle

theorem loadRomFile_kept (hP : KeptByCommands P) (files : Storage) (name : String)
    (h : P m.state past) : P (m.loadRomFile files name).machine.state past := by
  rw [loadRomFile]
  cases hrom : m.state.loadRomFile files name with
  | error f => exact h
  | ok t =>
    obtain ⟨rom, hle, rfl⟩ := State.eq_of_loadRomFile hrom
    exact hP.rom h hle

theorem updateKeys_kept (hP : KeptByCommands P) (keys : List Bool) (h : P m.state past) :
    P (m.updateKeys keys).machine.state past := by
  rw [updateKeys]
  cases hkeys : m.state.updateKeys keys with
  | error f => exact h
  | ok t =>
    obtain ⟨keys, rfl⟩ := State.eq_of_updateKeys hkeys
    exact hP.keys h keys

/-- What nothing between two resets breaks, and what holds of a first state, no command breaks. -/
theorem obey_kept (hP : KeptByCommands P) (c : Command)
    (hreset : c = .reset → P (State.initial g capacity (Key.ofSeed m.seed)) [])
    (h : P m.state past) : P (m.obey c).machine.state (m.remember past c) := by
  cases c with
  | loadRom rom => exact loadRom_kept hP rom h
  | loadRomFile files name => exact loadRomFile_kept hP files name h
  | updateKeys keys => exact updateKeys_kept hP keys h
  | tick => exact tick_kept hP.toKeptByTicks h
  | run count progress => exact run_kept hP.toKeptByTicks count progress h
  | reset => exact hreset rfl
  | setLevel level => exact h

theorem after_keeps_of_imp (hP : KeptByCommands P) (m : Machine g capacity)
    (past : List (Tick g capacity)) (commands : List Command)
    (hreset : .reset ∈ commands → P (State.initial g capacity (Key.ofSeed m.seed)) [])
    (h : P m.state past) : P (m.after commands).state (m.history past commands) := by
  induction commands generalizing m past with
  | nil => exact h
  | cons c commands ih =>
    rw [after_cons, history]
    refine ih _ _ ?_ (obey_kept hP c (fun hc ↦ hreset (hc ▸ List.mem_cons_self)) h)
    -- the machine that is left still has the seed that its next reset starts from
    rw [seed_obey]
    exact fun hmem ↦ hreset (List.mem_cons_of_mem _ hmem)

/-- **Induction along a session.** A property of a state and of the ticks that led to it holds at
the end of every session if it holds at the beginning and in a first state, and no command but a
reset can break it. -/
theorem after_keeps (hP : KeptByCommands P) (m : Machine g capacity)
    (past : List (Tick g capacity))
    (hreset : P (State.initial g capacity (Key.ofSeed m.seed)) []) (h : P m.state past)
    (commands : List Command) : P (m.after commands).state (m.history past commands) :=
  after_keeps_of_imp hP m past commands (fun _ ↦ hreset) h

/-- Induction along a session without a reset, which need not hold of a first state. -/
theorem after_keeps_of_no_reset (hP : KeptByCommands P) (m : Machine g capacity)
    (past : List (Tick g capacity)) (commands : List Command) (hreset : .reset ∉ commands)
    (h : P m.state past) : P (m.after commands).state (m.history past commands) :=
  after_keeps_of_imp hP m past commands (fun hmem ↦ absurd hmem hreset) h

/-- Induction along a session for a property that has nothing to do with memory. -/
theorem after_induction (hP : Kept P) (m : Machine g capacity) (past : List (Tick g capacity))
    (hreset : P (State.initial g capacity (Key.ofSeed m.seed)) []) (h : P m.state past)
    (commands : List Command) : P (m.after commands).state (m.history past commands) :=
  after_keeps hP.keptByCommands m past hreset h commands

end Machine

end ChipEight
