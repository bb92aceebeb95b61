import ChipEight.Proofs.SideBySide
import ChipEight.Proofs.Watching

/-!
# The log as a trace

The log of a machine tells what has happened, and this file says how. What a host does with a
machine has some things to report, `Machine.reports`: every tick has one, an instruction or a fault,
unless it was refused; a program that was loaded and a reset have one each; everything else has
none. Reports are told from what has come of an interaction and from nothing that was logged. The
log is the reports in order, each a line of its own, without those below the level that was set
last.

## From one tick to sessions

A tick is looked back on as a `Tick`, and `Tick.entry` is its report. The ticks of a run are its
`Machine.nextTicks`, so a run reports as often as it ticks, and it reports a fault at its last tick
or not at all.
-/

namespace ChipEight

variable {g : Geometry} {capacity : Nat}

/-! ## Lines -/

/-- An entry as a line of a log that shows neither colours nor time stamps. -/
def LogEntry.line (name : String) (e : LogEntry) : String :=
  "[" ++ ("".pushn ' ' (8 - e.level.name.length) ++ e.level.name) ++ "][" ++ name ++ "] " ++
    e.message ++ "\n"

namespace Logger

variable {l : Logger}

theorem log_of_plain (hcolours : l.colours = false) (htimestamps : l.timestamps = false)
    (e : LogEntry) :
    l.log e.level e.message = (l, if l.level ≤ e.level then [e.line l.name] else []) := by
  have hrecord : l.record "" e.level e.message = e.line l.name := by
    have hbracket : "]" ++ "[" = "][" := rfl
    simp only [record, tag, hcolours, LogEntry.line, ← hbracket, Bool.false_eq_true, if_false,
      String.empty_append, String.append_assoc]
  simp only [log, lets, decide_eq_true_eq, htimestamps, hrecord, Bool.false_eq_true, if_false]
  split <;> rfl

theorem logAll_of_plain (hcolours : l.colours = false) (htimestamps : l.timestamps = false)
    (entries : List LogEntry) :
    l.logAll entries =
      (l, (entries.filter fun e ↦ l.level ≤ e.level).map (LogEntry.line l.name)) := by
  induction entries with
  | nil => rfl
  | cons e entries ih =>
    rw [logAll, log_of_plain hcolours htimestamps, ih, List.filter_cons]
    by_cases h : l.level ≤ e.level <;> simp [h]

end Logger

/-! ## What there is to report -/

/-- The report of a tick: the program counter before it, the word and the instruction, or the fault
that it has met. -/
def Tick.entry (r : Tick g capacity) : LogEntry :=
  match r.result with
  | .ok i =>
    ⟨.debug, Numeral.hexText 3 r.before.pc.toNat ++ "  " ++ String.ofList (Numeral.hex 4 i.raw) ++
      "  " ++ i.assembly⟩
  | .error e => ⟨.error, "Execution fault: " ++ e.message⟩

namespace Machine

def reports (m : Machine g capacity) : Interaction → List LogEntry
  | .command (.loadRom rom) =>
    if (m.loadRom rom).result.toBool then
      [⟨.info, "Loaded " ++ Numeral.text rom.length ++ " byte ROM"⟩]
    else []
  | .command (.loadRomFile files name) =>
    if (m.loadRomFile files name).result.toBool then [⟨.info, "Loaded ROM " ++ name⟩] else []
  | .command .tick => (m.nextTicks 1).map Tick.entry
  | .command (.run count progress) =>
    if runBegins count progress then (m.nextTicks count.toNat).map Tick.entry else []
  | .command .reset => [⟨.info, "Machine reset"⟩]
  | .command (.updateKeys _) | .command (.setLevel _) | .setLevel _ | .waitingForKey
  | .listing _ _ | .step | .execute _ => []

def printed (m : Machine g capacity) : List Interaction → List String
  | [] => []
  | a :: acts => (m.interact a).records ++ (m.interact a).machine.printed acts

/-- The reports of some interactions as lines, without those below the level that was set last. -/
def traceFrom (level : Level) (m : Machine g capacity) : List Interaction → List String
  | [] => []
  | a :: acts =>
    ((m.reports a).filter fun e ↦ level ≤ e.level).map (LogEntry.line m.logger.name) ++
      (m.interact a).machine.traceFrom (a.levelAfter level) acts

/-! ## The entries of a reply are the reports -/

theorem entries_ticksReply (n : Nat) (m : Machine g capacity) :
    (m.state.ticksReply n).entries = (m.nextTicks n).map Tick.entry := by
  induction n generalizing m with
  | zero => rfl
  | succ n ih =>
    rcases m.tick_cases with ⟨operation, t, hs, htick⟩ | ⟨f, hf, -⟩ | ⟨length, hlength, -⟩
    · have hrest := ih m.tick.machine
      rw [htick] at hrest
      rw [State.ticksReply, State.tickReply_of_steps hs, nextTicks_of_steps hs, htick,
        List.map_cons, ← hrest]
      rfl
    · rw [State.ticksReply, State.tickReply_of_fault hf, nextTicks_of_fault hf]
      rfl
    · have he := hlength.stepFailure?_eq
      rw [State.ticksReply, State.tickReply_of_range he, nextTicks_of_range he]
      rfl

theorem entries_tickReply (m : Machine g capacity) :
    m.state.tickReply.entries = (m.nextTicks 1).map Tick.entry := by
  have hone : (m.state.ticksReply 1).entries = m.state.tickReply.entries := by
    rw [State.ticksReply, Reply.andThen]
    cases m.state.tickReply.result with
    | error e => rfl
    | ok i => exact List.append_nil _
  rw [← hone, entries_ticksReply]

theorem entries_becoming {s : State g capacity} {next : Except Failure (State g capacity)}
    (entries : List LogEntry) :
    (s.becoming next entries).entries =
      if (s.becoming next entries).result.toBool then entries else [] := by
  cases next <;> rfl

theorem entries_replyTo (m : Machine g capacity) (a : Interaction) :
    (m.state.replyTo m.seed a).entries = m.reports a := by
  cases a with
  | command c =>
    cases c with
    | loadRom rom =>
      rw [reports, loadRom_eq_toldBy]
      exact entries_becoming _
    | loadRomFile files name =>
      rw [reports, loadRomFile_eq_toldBy]
      exact entries_becoming _
    | updateKeys keys =>
      show (m.state.becoming (m.state.updateKeys keys) []).entries = []
      rw [entries_becoming, ite_self]
    | tick => exact m.entries_tickReply
    | run count progress =>
      show (m.state.runReply count progress).entries = _
      have hticks := m.entries_ticksReply count.toNat
      rw [reports, State.runReply, runBegins]
      cases progress with
      | false => exact hticks
      | true =>
        -- a run that there is no bar for makes no tick and reports none
        cases ProgressBar.forTicks count none with
        | ok bar => exact hticks
        | error e => rfl
    | reset | setLevel => rfl
  | step =>
    rw [State.replyTo]
    cases m.state.step <;> rfl
  | execute v =>
    rw [State.replyTo]
    cases m.state.execute v <;> rfl
  | setLevel | waitingForKey | listing => rfl

/-! ## Sessions -/

/-- An interaction has nothing to report or leaves the level as it is. -/
theorem reports_eq_nil_or_levelAfter_eq (m : Machine g capacity) (a : Interaction) :
    m.reports a = [] ∨ a.levelAfter m.logger.level = m.logger.level := by
  cases a with
  | command c =>
    cases c with
    | setLevel level => exact .inl rfl
    | _ => exact .inr rfl
  | setLevel name => exact .inl rfl
  | _ => exact .inr rfl

section Plain

variable {m : Machine g capacity} (hcolours : m.logger.colours = false)
  (htimestamps : m.logger.timestamps = false)

include hcolours htimestamps

theorem records_interact (a : Interaction) :
    (m.interact a).records =
      ((m.reports a).filter fun e ↦ m.logger.level ≤ e.level).map
        (LogEntry.line m.logger.name) := by
  rw [interact_eq_toldBy, Reply.toldBy, entries_replyTo,
    Logger.logAll_of_plain (l := (m.adjusted a).logger) hcolours htimestamps]
  show ((m.reports a).filter fun e ↦ a.levelAfter m.logger.level ≤ e.level).map _ = _
  obtain hnone | hlevel := m.reports_eq_nil_or_levelAfter_eq a
  · rw [hnone]
    rfl
  · rw [hlevel]
    rfl

theorem logger_interact (a : Interaction) :
    (m.interact a).machine.logger =
      { m.logger with level := a.levelAfter m.logger.level } := by
  rw [interact_eq_toldBy, Reply.toldBy,
    Logger.logAll_of_plain (l := (m.adjusted a).logger) hcolours htimestamps]
  rfl

theorem printed_eq_traceFrom (acts : List Interaction) :
    m.printed acts = m.traceFrom m.logger.level acts := by
  induction acts generalizing m with
  | nil => rfl
  | cons a acts ih =>
    have hlogger := logger_interact hcolours htimestamps a
    have hlevel : (m.interact a).machine.logger.level = a.levelAfter m.logger.level := by
      rw [hlogger]
    rw [printed, traceFrom, records_interact hcolours htimestamps, ← hlevel,
      ih (hlogger ▸ hcolours) (hlogger ▸ htimestamps)]

end Plain

end Machine

/-! ## Faults -/

theorem Fault.message_of_pc {f : Fault} {pc : Int} (hkind : f.kind.isExecution = true)
    (hpc : f.pc = some pc) :
    f.message = f.cause.text ++ " (pc=" ++ Numeral.hexText 3 pc ++
      (match f.opcode with
        | some v => ", opcode=" ++ Numeral.hexText 4 v
        | none => "") ++ ")" := by
  have hopen (s : String) : " (" ++ ("pc=" ++ s) = " (pc=" ++ s := (String.append_assoc ..).symm
  have hcomma (s : String) : ", " ++ ("opcode=" ++ s) = ", opcode=" ++ s :=
    (String.append_assoc ..).symm
  rw [message, location, hkind, hpc]
  cases f.opcode <;> simp [hopen, hcomma, String.append_assoc]

namespace State

variable {s : State g capacity} {f : Fault}

theorem isExecution_of_fault (h : s.stepFailure? = some (.fault f)) :
    f.kind.isExecution = true := by
  have hkind := (stepFailure?_spec h).1
  simp only [List.mem_cons, List.not_mem_nil, or_false] at hkind
  obtain hk | hk | hk | hk := hkind <;> rw [hk] <;> rfl

theorem pc_locate (h : s.stepFailure? = some (.fault f)) :
    (s.locate f).pc = some (s.pc.toNat : Int) := by
  rw [locate, Fault.located, (stepFailure?_spec h).2.1]
  rfl

theorem opcode_locate (h : s.stepFailure? = some (.fault f)) :
    (s.locate f).opcode = s.fetch.toOption.map fun o ↦ (o.value : Int) := by
  obtain ⟨-, -, hnone | ⟨o, ho, hsome⟩⟩ := stepFailure?_spec h
  · rw [locate, Fault.located, hnone]
    rfl
  · rw [locate, Fault.located, hsome, ho]
    rfl

end State

namespace Machine

theorem message_of_tick {m : Machine g capacity} {f : Fault}
    (h : m.tick.result = .error (.fault f)) :
    f.message = f.cause.text ++ " (pc=" ++ Numeral.hexText 3 m.state.pc.toNat ++
      (match m.state.fetch with
        | .ok o => ", opcode=" ++ Numeral.hexText 4 o.value
        | .error _ => "") ++ ")" := by
  obtain ⟨operation, t, -, htick⟩ | ⟨f₀, hf₀, -⟩ | ⟨length, -, htick⟩ := m.tick_cases
  · rw [htick] at h
    cases h
  · rw [(tick_of_stepFailure? hf₀).1] at h
    obtain rfl := Failure.fault.inj (Except.error.inj h)
    have hkind : f₀.kind.isExecution = true := State.isExecution_of_fault hf₀
    rw [Fault.message_of_pc (f := m.state.locate f₀) hkind (State.pc_locate hf₀),
      State.opcode_locate hf₀]
    cases m.state.fetch <;> rfl
  · rw [htick] at h
    cases h

theorem exists_last_of_ticks {n : Nat} {m : Machine g capacity} {records : List String} {f : Fault}
    (h : (ticks n m records).result = .error (.fault f)) :
    ∃ (done : List (Tick g capacity)) (last : Tick g capacity),
      m.nextTicks n = done ++ [last] ∧ (∀ r ∈ done, ∃ i, r.result = .ok i) ∧
        last.result = .error (.fault f) := by
  induction n generalizing m records with
  | zero => cases h
  | succ n ih =>
    rw [ticks] at h
    rw [nextTicks]
    cases hfirst : m.tick.result with
    | error e =>
      rw [hfirst] at h
      obtain rfl := Except.error.inj h
      exact ⟨[], m.nextTick, rfl, by simp, hfirst⟩
    | ok i =>
      rw [hfirst] at h
      obtain ⟨done, last, hticks, hdone, hlast⟩ := ih h
      refine ⟨m.nextTick :: done, last, ?_, ?_, hlast⟩
      · rw [hticks]
        rfl
      · intro r hr
        obtain rfl | hr := List.mem_cons.mp hr
        · exact ⟨i, hfirst⟩
        · exact hdone r hr

/-- A run that fails with a fault has begun, and failed at one of its ticks. -/
theorem ticks_of_run_fault {m : Machine g capacity} {count : Int} {progress : Bool} {f : Fault}
    (h : (m.run count progress).result = .error (.fault f)) :
    runBegins count progress = true ∧ (ticks count.toNat m []).result = .error (.fault f) := by
  have hfalse (h : (m.run count false).result = .error (.fault f)) :
      (ticks count.toNat m []).result = .error (.fault f) := by
    rw [run_false, Outcome.map] at h
    cases hticks : (ticks count.toNat m []).result with
    | ok u =>
      rw [hticks] at h
      cases h
    | error e =>
      rw [hticks] at h
      exact congrArg _ (Except.error.inj h)
  cases progress with
  | false => exact ⟨rfl, hfalse h⟩
  | true =>
    rw [run, if_pos rfl] at h
    cases hbar : ProgressBar.forTicks count none with
    | ok bar =>
      rw [hbar] at h
      rw [runBegins, hbar]
      exact ⟨rfl, hfalse h⟩
    | error e =>
      -- such a run would have failed for want of a bar
      rw [hbar] at h
      cases h

/-- **The log is an exact trace.** What a machine prints without colours and time stamps is the
reports of what has been done with it, each a line of its own, in order, as far as their levels were
let through at the time. The fault that a tick reports names its place. A run at the lowest level
that fails prints a line for each instruction that it has executed, and one for the fault. -/
theorem log_is_exact_trace (m : Machine g capacity) (hcolours : m.logger.colours = false)
    (htimestamps : m.logger.timestamps = false) :
    (∀ acts : List Interaction, m.printed acts = m.traceFrom m.logger.level acts) ∧
    (∀ f : Fault, m.tick.result = .error (.fault f) →
      f.message = f.cause.text ++ " (pc=" ++ Numeral.hexText 3 m.state.pc.toNat ++
        (match m.state.fetch with
          | .ok o => ", opcode=" ++ Numeral.hexText 4 o.value
          | .error _ => "") ++ ")") ∧
    ∀ (count : Int) (progress : Bool) (f : Fault), m.logger.level = .debug →
      (m.run count progress).result = .error (.fault f) →
      ∃ (done : List (Tick g capacity)) (last : Tick g capacity),
        m.nextTicks count.toNat = done ++ [last] ∧ (∀ r ∈ done, ∃ i, r.result = .ok i) ∧
        last.result = .error (.fault f) ∧
        (m.run count progress).records =
          (done.map fun r ↦ r.entry.line m.logger.name) ++
            [LogEntry.line m.logger.name ⟨.error, "Execution fault: " ++ f.message⟩] := by
  refine ⟨printed_eq_traceFrom hcolours htimestamps, fun f hf ↦ message_of_tick hf, ?_⟩
  intro count progress f hlevel hrun
  obtain ⟨hbegins, hticks⟩ := ticks_of_run_fault hrun
  obtain ⟨done, last, hlist, hdone, hlast⟩ := exists_last_of_ticks hticks
  -- at the lowest level nothing is held back
  have hlet (entries : List LogEntry) :
      (entries.filter fun e ↦ m.logger.level ≤ e.level) = entries := by
    rw [List.filter_eq_self]
    intro e _
    rw [hlevel]
    exact decide_eq_true (Nat.zero_le _)
  have hentry : last.entry = ⟨.error, "Execution fault: " ++ f.message⟩ := by
    rw [Tick.entry, hlast]
    rfl
  refine ⟨done, last, hlist, hdone, hlast, ?_⟩
  have hrecords := records_interact hcolours htimestamps (.command (.run count progress))
  rw [hlet, reports, if_pos hbegins, hlist, List.map_append, List.map_append,
    List.map_map] at hrecords
  rw [← hentry]
  exact hrecords

/-- Two constants are loaded before a word that is no instruction. From there on only errors are
logged: the fault is met again, and the reset goes untold. -/
theorem log_is_exact_trace_of_fault :
    let m := new (.usual 0) (.plain .debug)
    let fault : Fault := { cause := .unknownOpcode 0, pc := some 0x204, opcode := some 0 }
    (m.logger.colours = false ∧ m.logger.timestamps = false) ∧
    m.printed [.command (.loadRom [0x60, 0x2A, 0x61, 0x07]), .command (.run 3 true),
        .setLevel "error", .command .tick, .command .reset, .waitingForKey] =
      ["[    INFO][chip8vm] Loaded 4 byte ROM\n",
       "[   DEBUG][chip8vm] 0x200  602A  LD V0, 0x2A\n",
       "[   DEBUG][chip8vm] 0x202  6107  LD V1, 0x07\n",
       "[   ERROR][chip8vm] Execution fault: unknown opcode 0x0000 (pc=0x204, opcode=0x0000)\n",
       "[   ERROR][chip8vm] Execution fault: unknown opcode 0x0000 (pc=0x204, opcode=0x0000)\n"] ∧
    let loaded := m.after [.loadRom [0x60, 0x2A, 0x61, 0x07]]
    (loaded.run 3 false).result = .error (.fault fault) ∧
      ∃ (done : List (Tick _ _)) (last : Tick _ _), loaded.nextTicks 3 = done ++ [last] ∧
        (loaded.run 3 false).records =
          (done.map fun r ↦ r.entry.line loaded.logger.name) ++
            [LogEntry.line loaded.logger.name ⟨.error, "Execution fault: " ++ fault.message⟩] := by
  intro m fault
  refine ⟨⟨rfl, rfl⟩, ?_, ?_⟩
  · rw [(m.log_is_exact_trace rfl rfl).1]
    decide +kernel
  · intro loaded
    obtain ⟨hcolours, htimestamps, hlevel, hresult⟩ :
        loaded.logger.colours = false ∧ loaded.logger.timestamps = false ∧
        loaded.logger.level = .debug ∧ (loaded.run 3 false).result = .error (.fault fault) := by
      decide +kernel
    obtain ⟨done, last, hticks, -, -, hrecords⟩ :=
      (loaded.log_is_exact_trace hcolours htimestamps).2.2 3 false fault hlevel hresult
    exact ⟨hresult, done, last, hticks, hrecords⟩

end Machine

end ChipEight
