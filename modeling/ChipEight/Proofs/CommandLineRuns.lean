import ChipEight.Proofs.Loading
import ChipEight.Proofs.MachineArguments
import ChipEight.Proofs.Replies

/-!
# Runs from the command line

A run from the command line is a run of a machine, and there is nothing more to it. The machine is
made, the program is loaded from its file, and `Machine.run` does the rest; the ending tells how the
run has ended, and the text is the screen that it has left. So the ending and the text are those
that a user of the machine would find with a machine of his own, with whatever logger, and the level
of the log has no part in them.

## Failures

A failure is met at some tick, `Machine.FailsAt`, and the ticks before it are a run of their own. A
run that comes to the failure leaves what the failed tick leaves, `Machine.FailsAt.run`. So the
screen at the end is the one from before the instruction that could not be executed. A fault gives
the status 1. The only other failure is a sprite on an oversized screen: it breaks the run, and no
screen is shown.

## Progress bars

A run for which there is no progress bar is broken if one is asked for, whatever it would have come
to. No other run is changed by a progress bar.
-/

namespace ChipEight

variable {g : Geometry} {capacity : Nat}

/-! ## Runs that come to a failure -/

namespace Machine

/-- That a machine takes a number of ticks and fails at the next one. -/
def FailsAt (m : Machine g capacity) (k : Nat) (e : Failure) : Prop :=
  (m.run k false).result = .ok k ∧ (m.run k false).machine.tick.result = .error e

/-- That a machine takes a number of ticks and meets a fault at the next one. -/
def FaultsAt (m : Machine g capacity) (k : Nat) : Prop := ∃ f, m.FailsAt k (.fault f)

section

variable {m m' : Machine g capacity} {n k : Nat} {e : Failure}

theorem run_of_state_eq (h : m'.state = m.state) (count : Int) (progress : Bool) :
    (m'.run count progress).result = (m.run count progress).result ∧
      (m'.run count progress).machine.state = (m.run count progress).machine.state := by
  rw [run_eq_toldBy, run_eq_toldBy, h]
  exact ⟨rfl, rfl⟩

theorem run_of_runEnds {t : State g capacity} {r : Except Failure Unit}
    (h : m.state.RunEnds n t r) :
    (m.run n false).machine.state = t ∧ (m.run n false).result = r.map fun _ ↦ n := by
  obtain ⟨hstate, hresult⟩ := (runEnds_iff_ticks n m []).mp h
  rw [run_false, Int.toNat_natCast, Outcome.map, hresult]
  exact ⟨hstate, rfl⟩

theorem exists_runEnds (m : Machine g capacity) (n : Nat) :
    ∃ t r, m.state.RunEnds n t r ∧ (m.run n false).machine.state = t ∧
      (m.run n false).result = r.map fun _ ↦ n := by
  have hends := (runEnds_iff_ticks n m []).mpr ⟨rfl, rfl⟩
  exact ⟨_, _, hends, run_of_runEnds hends⟩

theorem afterSteps_of_run_ok (h : (m.run k false).result = .ok k) :
    m.state.afterSteps k = some (m.run k false).machine.state := by
  obtain ⟨t, r, hends, hstate, hresult⟩ := m.exists_runEnds k
  rw [h] at hresult
  rcases hends with ht | _
  · rw [hstate, ht]
  · cases hresult

theorem FailsAt.exists_step_eq (h : m.FailsAt k e) :
    ∃ e', (m.run k false).machine.state.step = .error e' ∧
      e = (m.run k false).machine.state.told e' := by
  have htick := (m.run k false).machine.tick_of_step
  rcases hstep : (m.run k false).machine.state.step with e' | ⟨t, i⟩
  · rw [hstep, h.2] at htick
    exact ⟨e', rfl, Except.error.inj htick.1⟩
  · rw [hstep, h.2] at htick
    cases htick.1

theorem failsAt_of_step {t : State g capacity} {e : Failure} (ht : m.state.afterSteps k = some t)
    (he : t.step = .error e) : m.FailsAt k (t.told e) := by
  obtain ⟨rfl, hresult⟩ := run_of_runEnds (.complete ht)
  have htick := (m.run k false).machine.tick_of_step
  rw [he] at htick
  exact ⟨hresult, htick.1⟩

/-- A run that comes to a failure stops there and leaves the screen that there was. -/
theorem FailsAt.run (h : m.FailsAt k e) (hk : k < n) :
    (m.run n false).result = .error e ∧
      (m.run n false).machine.state.screen = (m.run k false).machine.state.screen := by
  obtain ⟨e', he', rfl⟩ := h.exists_step_eq
  obtain ⟨hstate, hresult⟩ := run_of_runEnds (.failure hk (afterSteps_of_run_ok h.1) he')
  refine ⟨hresult, ?_⟩
  rw [hstate]
  cases e' <;> rfl

/-- A tick fails at a fault or at a sprite on an oversized screen. -/
theorem FailsAt.fault_or_divisor (h : m.FailsAt k e) :
    (∃ f, e = .fault f) ∨ ∃ length : Nat, 0x80000000 ≤ length ∧
      (length = g.width ∨ length = g.height) ∧ e = .range (.operand .divisor length) := by
  obtain ⟨e', he', rfl⟩ := h.exists_step_eq
  obtain ⟨f, rfl⟩ | ⟨length, hlength, rfl⟩ :=
    State.fault_or_overflows (State.step_eq_error_iff.mp he')
  · exact .inl ⟨_, rfl⟩
  · obtain ⟨hle, hside⟩ := Geometry.le_of_oversize? hlength.oversize?_eq
    exact .inr ⟨length, hle, hside, rfl⟩

theorem run_ok_or_failsAt (m : Machine g capacity) (n : Nat) :
    (m.run n false).result = .ok n ∨ ∃ k < n, ∃ e, m.FailsAt k e := by
  obtain ⟨t, r, hends, -, hresult⟩ := m.exists_runEnds n
  rcases hends with ht | ⟨hk, ht, he⟩
  · exact .inl hresult
  · exact .inr ⟨_, hk, _, failsAt_of_step ht he⟩

theorem run_ok_iff (m : Machine g capacity) (n : Nat) :
    (m.run n false).result = .ok n ↔ ∀ k < n, ∀ e, ¬m.FailsAt k e := by
  constructor
  · intro hok k hk e h
    have herror := (h.run hk).1
    rw [hok] at herror
    cases herror
  · intro hnone
    obtain hok | ⟨k, hk, e, h⟩ := m.run_ok_or_failsAt n
    · exact hok
    · exact absurd h (hnone k hk e)

end

end Machine

/-! ## Showing the screen -/

namespace CommandLine

/-- The ending that tells how a run of a machine has ended. -/
def endingOf {α : Type} : Except Failure α → Ending
  | .ok _ => .exit 0
  | .error (.fault _) => .exit 1
  | .error e => .broken (.program e)

theorem exists_output_present (t : Settings) (host : Host) (m : Machine g capacity)
    (status : Nat) (output : String) :
    ∃ more, (present t host m status output).output =
        output ++ (if t.ascii then screenLines m.state else "") ++ more ∧
      (t.screenshot = none → more = "") := by
  obtain ⟨-, e, he⟩ | ⟨more, image, hmore, hpresent⟩ := present_cases t host m status output
  · rw [he]
    exact ⟨"", String.append_empty.symm, fun _ ↦ rfl⟩
  · rw [hpresent]
    exact ⟨more, rfl, hmore⟩

theorem ending_present (t : Settings) {host : Host} {m : Machine g capacity}
    (h : t.Savable host m.state) (status : Nat) (output : String) :
    (present t host m status output).ending = .exit status := by
  obtain ⟨hnot, -⟩ | ⟨more, image, -, hpresent⟩ := present_cases t host m status output
  · exact absurd h hnot
  · rw [hpresent]

/-! ## What a run prints -/

/-- What is logged of the run of a loaded program, if the log is told everything. -/
def runEntries (s : State g capacity) (n : Nat) : List LogEntry :=
  let ran := s.ticksReply n
  ran.entries ++
    match ran.result with
    | .ok _ =>
      [⟨.info, "Executed " ++ Numeral.text n ++ " instructions, pc=" ++
        Numeral.hexText 3 ran.state.pc.toNat⟩]
    | .error _ => []

/-- A run with a progress bar that can be made, or without one, is a run of the machine. It prints
what its logger lets through and then shows the screen, unless it is broken. -/
theorem runLoaded_of_endingOf {t : Settings} {n : Nat}
    (hbar : t.progress = true → n < ProgressBar.limit) (host : Host) (m : Machine g capacity)
    (output : String) :
    let printed := output ++ String.join (m.logger.logAll (runEntries m.state n)).2
    (∀ status, endingOf (m.run n false).result = .exit status →
      ∃ m', m'.state = (m.run n false).machine.state ∧
        runLoaded t n host m output = present t host m' status printed) ∧
    ∀ b, endingOf (m.run n false).result = .broken b →
      runLoaded t n host m output = { ending := .broken b, output := printed } := by
  intro printed
  -- a progress bar that can be made has no part in the run
  have hrun : m.run n t.progress = m.run n false := by
    rcases hprogress : t.progress with _ | _
    · rfl
    · exact Machine.run_true_of_lt (hbar hprogress) m
  -- what the machine prints is what its logger makes of the entries of the run
  have htold : m.run n false = ((m.state.ticksReply n).map fun _ ↦ n).toldBy m := by
    rw [Machine.run_false, Int.toNat_natCast, Machine.ticks_eq_toldBy, Reply.toldBy_map]
  simp only [printed, runLoaded, hrun, htold, Reply.toldBy, Reply.map, runEntries]
  cases (m.state.ticksReply n).result with
  | error e =>
    rw [List.append_nil]
    cases e with
    | fault f =>
      refine ⟨fun status hstatus ↦ ?_, fun b hb ↦ ?_⟩
      · obtain rfl := Ending.exit.inj hstatus
        exact ⟨((m.state.ticksReply n).toldBy m).machine, rfl, rfl⟩
      · cases hb
    | _ =>
      refine ⟨fun status hstatus ↦ ?_, fun b hb ↦ ?_⟩
      · cases hstatus
      · obtain rfl := Ending.broken.inj hb
        rfl
  | ok =>
    refine ⟨fun status hstatus ↦ ?_, fun b hb ↦ ?_⟩
    · obtain rfl := Ending.exit.inj hstatus
      simp only [Except.map, Logger.logAll_append, Logger.logAll_singleton, String.join_append,
        String.append_assoc]
      refine ⟨_, ?_, rfl⟩
      rfl
    · cases hb

/-! ## Loading and running -/

/-- That a command line asks for a number of ticks of the program in a file. -/
structure Asks (arguments : List String) (r : Request) (name : String) (n : Nat)
    (width height seed : Int) (level : Level) : Prop where
  request : Request.ofArguments arguments = .ok r
  rom_eq : r.rom = name
  gives : r.settings.Gives n width height seed level

theorem asks_numberArguments (rom : String) (n : Nat) (width height seed : Int) (progress : Bool)
    (hrom : rom.toList.head? ≠ some '-') (hdigits : ∀ v ∈ [(n : Int), width, height, seed],
      (Nat.toDigits 10 v.natAbs).length ≤ Integer.maxDigits) :
    Asks (numberArguments rom n width height seed progress)
      { rom := Storage.tidy rom
        settings :=
          { ticks := some n, width := some width, height := some height, seed := some seed
            progress } }
      (Storage.tidy rom) n width height seed .info :=
  ⟨Request.ofArguments_numberArguments rom n width height seed progress hrom hdigits, rfl,
    ⟨rfl, rfl, rfl, rfl, rfl⟩⟩

/-- That there is no program of a fitting length in the file of a name. -/
def Unloadable (files : Storage) (name : String) : Prop :=
  (∃ e, e ≠ .nullInName ∧ files.read name = .error e) ∨
    ∃ rom, files.read name = .ok rom ∧ 0x400 < rom.length

theorem Unloadable.exists_refused {files : Storage} {name : String} (h : Unloadable files name) :
    ∃ f, ∀ {g : Geometry} {capacity : Nat} (m : Machine g capacity),
      m.loadRomFile files name = m.refuse (.fault f) := by
  obtain ⟨e, he, hread⟩ | ⟨rom, hread, hlong⟩ := h
  · refine ⟨{ cause := .unreadableRom name e }, fun m ↦ ?_⟩
    have hstate : m.state.loadRomFile files name =
        .error (.fault { cause := .unreadableRom name e }) := by
      rw [State.loadRomFile, hread]
      rcases e with _ | _ | _ | _ | _ | _
      case nullInName => exact absurd rfl he
      all_goals rfl
    rw [Machine.loadRomFile, hstate]
  · exact ⟨_, fun m ↦ (m.loadsAll_loadRomFile hread).refused hlong⟩

section

variable {arguments : List String} {r : Request} {host : Host} {name : String} {n : Nat}
  {width height seed : Int} {level : Level} {c : Config} {rom : List Byte}

theorem Asks.run_eq (h : Asks arguments r name n width height seed level)
    (hc : Config.check width height seed defaultStackSize = .ok c) (host : Host)
    (logger : Logger) :
    run arguments host logger =
      runMachine r n host (Machine.new c { logger with level }) := by
  rw [run_of_request h.request, runRequest_of_ok h.gives (Int.natCast_nonneg n) hc]

theorem runMachine_of_read (m : Machine g capacity) (hread : host.read r.rom = .ok rom)
    (hle : rom.length ≤ 0x400) :
    ∃ loaded : Machine g capacity,
      m.state.loadRom rom = .ok loaded.state ∧
      loaded.logger = (m.logger.log .info ("Loaded ROM " ++ r.rom)).1 ∧
      runMachine r n host m = runLoaded r.settings n host loaded
        (String.join (m.logger.log .info ("Loaded ROM " ++ r.rom)).2) := by
  obtain ⟨t, ht⟩ := State.exists_loadRom_iff.mpr hle
  let loaded := (m.announce t .info ("Loaded ROM " ++ r.rom) (.ok ()) : Outcome g capacity Unit)
  have hfile : m.loadRomFile host.toStorage r.rom = loaded := by
    rw [Machine.loadRomFile, State.loadRomFile_of_read _ hread, ht]
    rfl
  refine ⟨loaded.machine, ht, rfl, ?_⟩
  rw [runMachine, hfile]
  rfl

/-- A program of a fitting length is loaded, as it would be into any machine in the same state, and
then run. -/
theorem runMachine_of_endingOf (m m' : Machine g capacity) (hstate : m'.state = m.state)
    (hread : host.read r.rom = .ok rom) (hle : rom.length ≤ 0x400)
    (hbar : r.settings.progress = true → n < ProgressBar.limit) :
    let ran := (m'.loadRom rom).machine.run n false
    let printed := String.join (m.logger.logAll (⟨.info, "Loaded ROM " ++ r.rom⟩ ::
      runEntries (m'.loadRom rom).machine.state n)).2
    (∀ status, endingOf ran.result = .exit status →
      ∃ last : Machine g capacity, last.state = ran.machine.state ∧
        runMachine r n host m = present r.settings host last status printed) ∧
    ∀ b, endingOf ran.result = .broken b →
      runMachine r n host m = { ending := .broken b, output := printed } := by
  intro ran printed
  obtain ⟨loaded, hloaded, hlogger, hrun⟩ := runMachine_of_read (n := n) m hread hle
  -- the two machines have a logger each, and loading does not look at it
  have hsame : loaded.state = (m'.loadRom rom).machine.state := by
    rw [Machine.loadRom, hstate, hloaded]
    rfl
  obtain ⟨hresult, hlast⟩ := Machine.run_of_state_eq hsame n false
  have hends := runLoaded_of_endingOf hbar host loaded
    (String.join (m.logger.log .info ("Loaded ROM " ++ r.rom)).2)
  rw [← hrun, hresult, hlast, hlogger, hsame, ← String.join_append] at hends
  exact hends

theorem runMachine_of_limit_le (m : Machine g capacity) (hread : host.read r.rom = .ok rom)
    (hle : rom.length ≤ 0x400) (hprogress : r.settings.progress = true)
    (hlimit : ProgressBar.limit ≤ n) :
    runMachine r n host m =
      { ending := .broken (.program (.range
          (if 4300 < (Nat.toDigits 10 n).length then .digits else .double)))
        output := String.join (m.logger.log .info ("Loaded ROM " ++ r.rom)).2 } := by
  obtain ⟨loaded, -, -, hrun⟩ := runMachine_of_read (n := n) m hread hle
  rw [hrun, runLoaded, hprogress, Machine.run_true_of_le hlimit]
  have hnone : String.join [] = "" := rfl
  simp only [Machine.refuse, hnone, String.append_empty]

/-- What a command line comes to if its program is loaded and there is a progress bar for its ticks,
told by a run of any machine that holds the program. -/
theorem Asks.run_of_endingOf (h : Asks arguments r name n width height seed level)
    (hc : Config.check width height seed defaultStackSize = .ok c)
    (hread : host.read name = .ok rom) (hle : rom.length ≤ 0x400) (own logger : Logger)
    (hbar : r.settings.progress = true → n < ProgressBar.limit) :
    let chip := ((Machine.new c own).loadRom rom).machine
    let ran := chip.run n false
    let printed := String.join ({ logger with level }.logAll
      (⟨.info, "Loaded ROM " ++ name⟩ :: runEntries chip.state n)).2
    (∀ status, endingOf ran.result = .exit status →
      (r.settings.Savable host ran.machine.state →
        (run arguments host logger).ending = .exit status) ∧
      ∃ more, (run arguments host logger).output =
          printed ++ (if r.settings.ascii then screenLines ran.machine.state else "") ++ more ∧
        (r.settings.screenshot = none → more = "")) ∧
    ∀ b, endingOf ran.result = .broken b →
      run arguments host logger = { ending := .broken b, output := printed } := by
  intro chip ran printed
  obtain rfl := h.rom_eq
  obtain ⟨hexit, hbroken⟩ := runMachine_of_endingOf (Machine.new c { logger with level })
    (Machine.new c own) rfl hread hle hbar
  rw [h.run_eq hc]
  refine ⟨fun status hstatus ↦ ?_, hbroken⟩
  obtain ⟨last, hlast, hrun⟩ := hexit status hstatus
  rw [hrun, ← hlast]
  exact ⟨fun hsavable ↦ ending_present _ hsavable _ _, exists_output_present ..⟩

theorem endingOf_run_eq_exit_one_iff (m : Machine g capacity) (n : Nat) :
    endingOf (m.run n false).result = .exit 1 ↔ ∃ k < n, m.FaultsAt k := by
  constructor
  · intro hending
    obtain hok | ⟨k, hk, e, h⟩ := m.run_ok_or_failsAt n
    · rw [hok] at hending
      cases hending
    · obtain ⟨f, rfl⟩ | ⟨length, -, -, rfl⟩ := h.fault_or_divisor
      · exact ⟨k, hk, f, h⟩
      · rw [(h.run hk).1] at hending
        cases hending
  · rintro ⟨k, hk, f, h⟩
    rw [(h.run hk).1]
    rfl

theorem endingOf_run_eq_exit_zero_iff (m : Machine g capacity) (n : Nat) :
    endingOf (m.run n false).result = .exit 0 ↔ ∀ k < n, ∀ e, ¬m.FailsAt k e := by
  rw [← m.run_ok_iff]
  constructor
  · intro hending
    obtain hok | ⟨k, hk, e, h⟩ := m.run_ok_or_failsAt n
    · exact hok
    · rw [(h.run hk).1] at hending
      obtain ⟨f, rfl⟩ | ⟨length, -, -, rfl⟩ := h.fault_or_divisor
      · cases hending
      · cases hending
  · intro hok
    rw [hok]
    rfl

theorem faultsAt_bad_opcode :
    ((Machine.new (.usual 0) (.plain .info)).loadRom [0xFF, 0xFF]).machine.FaultsAt 0 := by
  have hfailure : ((Machine.new (.usual 0) (.plain .info)).loadRom
      [0xFF, 0xFF]).machine.state.stepFailure? = some (.fault (.unknownOpcode 0xFFFF)) := by
    decide +kernel
  exact ⟨_, Machine.failsAt_of_step rfl (State.step_eq_error_iff.mpr hfailure)⟩

/-- **The command line runs the machine.** A program that cannot be loaded is not run: the report on
it is all that there is. Any other program is run as it would be on a machine of its own, with
whatever logger. The status is 1 if one of the ticks faults, and 0 if no tick fails. The only other
failure is a sprite on a screen with a side of `2 ^ 31` pixels or more: it breaks the run, and no
screen is shown. Otherwise the text is the screen that the run has left, which after a fault is the
one from before the faulty instruction. It stands behind the log, with at most the record of a
screenshot behind it. So neither depends on the level of the log, nor on a progress bar, as long as
there is one for so many ticks. -/
theorem runs_the_machine (hc : Config.check width height seed defaultStackSize = .ok c) (n : Nat)
    (host : Host) (name : String) :
    (Unloadable host.toStorage name → ∃ message, ∀ arguments r level logger,
      Asks arguments r name n width height seed level →
        run arguments host logger =
          { ending := .exit 1
            output := String.join
              ({ logger with level }.log .error ("Error loading ROM: " ++ message)).2 }) ∧
    ∀ (rom : List Byte) (own : Logger), host.read name = .ok rom → rom.length ≤ 0x400 →
      let chip := ((Machine.new c own).loadRom rom).machine
      let ran := chip.run n false
      ((Machine.new c own).loadRom rom).result = .ok () ∧
      (endingOf ran.result = .exit 1 ↔ ∃ k < n, chip.FaultsAt k) ∧
      (endingOf ran.result = .exit 0 ↔ ∀ k < n, ∀ e, ¬chip.FailsAt k e) ∧
      (∀ k < n, ∀ e, chip.FailsAt k e → ran.result = .error e ∧
        ran.machine.state.screen = (chip.run k false).machine.state.screen ∧
        ((∃ f, e = .fault f) ∨ ∃ length : Nat, 0x80000000 ≤ length ∧
          (length = c.geometry.width ∨ length = c.geometry.height) ∧
          e = .range (.operand .divisor length))) ∧
      (∃ b, Bitmap.ofPacked ran.machine.state.screen.toList c.geometry.width c.geometry.height =
          .ok b ∧ screenLines ran.machine.state = b.text "#" "." ++ "\n") ∧
      ∀ arguments r level logger, Asks arguments r name n width height seed level →
        ((r.settings.progress = true → n < ProgressBar.limit) →
          let printed := String.join ({ logger with level }.logAll
            (⟨.info, "Loaded ROM " ++ name⟩ :: runEntries chip.state n)).2
          (∀ status, endingOf ran.result = .exit status →
            (r.settings.Savable host ran.machine.state →
              (run arguments host logger).ending = .exit status) ∧
            ∃ more, (run arguments host logger).output =
                printed ++ (if r.settings.ascii then screenLines ran.machine.state else "") ++
                  more ∧
              (r.settings.screenshot = none → more = "")) ∧
          ∀ b, endingOf ran.result = .broken b →
            run arguments host logger = { ending := .broken b, output := printed }) ∧
        (r.settings.progress = true → ProgressBar.limit ≤ n →
          run arguments host logger =
            { ending := .broken (.program (.range
                (if 4300 < (Nat.toDigits 10 n).length then .digits else .double)))
              output := String.join
                ({ logger with level }.log .info ("Loaded ROM " ++ name)).2 }) := by
  refine ⟨?refused, ?ran⟩
  case refused =>
    intro hunloadable
    obtain ⟨f, hf⟩ := hunloadable.exists_refused
    refine ⟨f.message, fun arguments r level logger h ↦ ?_⟩
    obtain rfl := h.rom_eq
    rw [h.run_eq hc, runMachine, hf]
    rfl
  case ran =>
    intro rom own hread hle chip ran
    refine ⟨((Machine.new c own).loadsAll_loadRom rom).result_eq hle,
      endingOf_run_eq_exit_one_iff chip n, endingOf_run_eq_exit_zero_iff chip n, ?_,
      ⟨_, Bitmap.ofPacked_toList _, rfl⟩, ?_⟩
    · intro k hk e h
      exact ⟨(h.run hk).1, (h.run hk).2, h.fault_or_divisor⟩
    · intro arguments r level logger h
      refine ⟨h.run_of_endingOf hc hread hle own logger, ?_⟩
      obtain rfl := h.rom_eq
      rw [h.run_eq hc]
      exact runMachine_of_limit_le _ hread hle

end

/-- A program that faults at its first tick, with one tick to go and with none, and a program that
is missing. -/
theorem runs_the_machine_of_bad_opcode :
    let host := FileFormat.host ⟨fun _ ↦ .ok [0xFF, 0xFF], fun _ ↦ .ok ()⟩
    let empty := FileFormat.host ⟨fun _ ↦ .error .missing, fun _ ↦ .ok ()⟩
    ∀ logger progress,
      (run (numberArguments "bad.ch8" 1 64 32 0 progress) host logger).ending = .exit 1 ∧
      (run (numberArguments "bad.ch8" 0 64 32 0 progress) host logger).ending = .exit 0 ∧
      (run (numberArguments "bad.ch8" 1 64 32 0 progress) empty logger).ending = .exit 1 := by
  intro host empty logger progress
  have hc : Config.check 64 32 0 defaultStackSize = .ok (.usual 0) := rfl
  have hone := asks_numberArguments "bad.ch8" 1 64 32 0 progress (by decide) (by decide +kernel)
  have hzero := asks_numberArguments "bad.ch8" 0 64 32 0 progress (by decide) (by decide +kernel)
  refine ⟨?_, ?_, ?_⟩
  · obtain ⟨-, hloaded⟩ := runs_the_machine hc 1 host (Storage.tidy "bad.ch8")
    obtain ⟨-, hstatus, -, -, -, hruns⟩ :=
      hloaded [0xFF, 0xFF] (.plain .info) rfl (by decide)
    obtain ⟨hexit, -⟩ := (hruns _ _ _ logger hone).1 fun _ ↦ by decide +kernel
    exact (hexit 1 (hstatus.mpr ⟨0, by decide, faultsAt_bad_opcode⟩)).1 nofun
  · obtain ⟨-, hloaded⟩ := runs_the_machine hc 0 host (Storage.tidy "bad.ch8")
    obtain ⟨-, -, hstatus, -, -, hruns⟩ :=
      hloaded [0xFF, 0xFF] (.plain .info) rfl (by decide)
    obtain ⟨hexit, -⟩ := (hruns _ _ _ logger hzero).1 fun _ ↦ by decide +kernel
    exact (hexit 0 (hstatus.mpr fun k hk ↦ absurd hk (Nat.not_lt_zero k))).1 nofun
  · obtain ⟨hrefused, -⟩ := runs_the_machine hc 1 empty (Storage.tidy "bad.ch8")
    obtain ⟨message, hreport⟩ := hrefused (.inl ⟨.missing, by decide, rfl⟩)
    exact congrArg Report.ending (hreport _ _ _ logger hone)

/-- A program that faults at its first tick does so on the command line, unless it is to have a
progress bar for more ticks than there is one for. -/
theorem progress_bar_breaks_run :
    let host := FileFormat.host ⟨fun _ ↦ .ok [0xFF, 0xFF], fun _ ↦ .ok ()⟩
    let arguments := numberArguments "bad.ch8" ProgressBar.limit 64 32 0
    ∀ logger,
      (run (arguments false) host logger).ending = .exit 1 ∧
      (run (arguments true) host logger).ending = .broken (.program (.range .double)) := by
  intro host arguments logger
  -- the number of ticks can be written on a command line
  have hdigits : ∀ v ∈ [(ProgressBar.limit : Int), 64, 32, 0],
      (Nat.toDigits 10 v.natAbs).length ≤ Integer.maxDigits := by
    intro v hv
    rw [Nat.length_toDigits_le_iff (by decide) (by decide)]
    revert v
    decide +kernel
  have hasks (progress : Bool) :=
    asks_numberArguments "bad.ch8" ProgressBar.limit 64 32 0 progress (by decide) hdigits
  have hc : Config.check 64 32 0 defaultStackSize = .ok (.usual 0) := rfl
  have hread (name : String) : host.read name = .ok [0xFF, 0xFF] := rfl
  have hlimit : 0 < ProgressBar.limit := by decide +kernel
  constructor
  · obtain ⟨hexit, -⟩ := (hasks false).run_of_endingOf hc (hread _) (by decide) (.plain .info) logger
      nofun
    exact (hexit 1 ((endingOf_run_eq_exit_one_iff _ _).mpr
      ⟨0, hlimit, faultsAt_bad_opcode⟩)).1 nofun
  · have hwritten := Machine.length_toDigits_of_le (Nat.le_refl ProgressBar.limit)
    rw [(hasks true).run_eq hc, runMachine_of_limit_le _ (hread _) (by decide) rfl
      (Nat.le_refl _), if_neg (Nat.not_lt.mpr hwritten)]

/-- A sprite on a row of `2 ^ 31` pixels breaks the run, which has no status then and shows no
screen. -/
theorem long_row_breaks_run :
    let host := FileFormat.host ⟨fun _ ↦ .ok [0xD0, 0x01], fun _ ↦ .ok ()⟩
    ∀ logger, (run (numberArguments "row.ch8" 1 0x80000000 1 0 false) host logger).ending =
      .broken (.program (.range (.operand .divisor 0x80000000))) := by
  intro host logger
  have hc : Config.check 0x80000000 1 0 defaultStackSize = .ok Machine.longRow := rfl
  have hasks := asks_numberArguments "row.ch8" 1 0x80000000 1 0 false (by decide)
    (by decide +kernel)
  have hread (name : String) : host.read name = .ok [0xD0, 0x01] := rfl
  let chip := ((Machine.new Machine.longRow (.plain .info)).loadRom [0xD0, 0x01]).machine
  have hfails : chip.FailsAt 0 (.range (.operand .divisor 0x80000000)) := by
    refine ⟨rfl, ?_⟩
    have htick := Machine.tick_of_overflows (Machine.overflows_longRow (m := chip) rfl)
    exact congrArg Outcome.result htick
  obtain ⟨-, hbroken⟩ := hasks.run_of_endingOf hc (hread _) (by decide) (.plain .info) logger nofun
  exact congrArg Report.ending (hbroken _ (congrArg endingOf (hfails.run Nat.zero_lt_one).1))

end CommandLine

end ChipEight
