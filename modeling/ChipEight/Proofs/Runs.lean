import ChipEight.Proofs.History

/-!
# Ticks and runs, told by steps

There are two ways to work a machine. `State.step` is one cycle as a function of a state, without
a host; `Machine.tick` is the cycle that a host asks for, and `Machine.run` repeats it. This file
tells ticks and runs by steps alone. A tick is a step, but for what becomes of a fault: it is told
its place, and the timers have counted. A run takes as many steps as it is asked for, or those
before the first that cannot be taken.

What a tick makes of a failed step is said by two functions, `State.told` and `State.leftBy`. They
tell faults from other failures, and nothing else in this file has to.

## Runs in parts

Outcomes follow one another by `Outcome.andThen`: a failure stays as it is, and otherwise the
records of both are put together. A run is its ticks put together in this way, so a run of `a + b`
ticks is a run of `a` ticks followed by one of `b`, and nothing is said of states.

## Progress bars

A run with a progress bar is the run without it, if there is a bar for so many ticks. If there is
none the run is refused before its first tick, whatever the ticks would have done.
-/

namespace ChipEight

variable {g : Geometry} {capacity : Nat}

/-! ## Many steps -/

namespace State

/-- A fault of the next cycle, told where it is met. -/
def locate (s : State g capacity) (f : Fault) : Fault :=
  f.located s.pc.toNat (s.fetch.toOption.map fun o ↦ (o.value : Int))

/-- A failure of the next cycle, which is told where it is met if it is a fault. -/
def told (s : State g capacity) : Failure → Failure
  | .fault f => .fault (s.locate f)
  | e => e

/-- The state that a failure of the next cycle leaves: a fault has let the timers count. -/
def leftBy (s : State g capacity) : Failure → State g capacity
  | .fault _ => s.tickTimers
  | _ => s

/-- The state after a number of steps, if all of them can be taken. -/
def afterSteps : Nat → State g capacity → Option (State g capacity)
  | 0, s => some s
  | n + 1, s => s.step.toOption.bind fun r ↦ afterSteps n r.1

/-- How a number of ticks end, told by steps alone: with a state, and with a failure or none. -/
inductive RunEnds (s : State g capacity) (n : Nat) : State g capacity → Except Failure Unit → Prop
  /-- All steps can be taken. -/
  | complete {t} (ht : s.afterSteps n = some t) : s.RunEnds n t (.ok ())
  /-- After some steps, fewer than asked for, one cannot be taken. -/
  | failure {k t e} (hk : k < n) (ht : s.afterSteps k = some t) (he : t.step = .error e) :
    s.RunEnds n (t.leftBy e) (.error (t.told e))

variable {s t u : State g capacity} {n : Nat} {r : Except Failure Unit}

theorem afterSteps_succ_of_ok {i : Instruction} (h : s.step = .ok (u, i)) (n : Nat) :
    s.afterSteps (n + 1) = u.afterSteps n := by
  rw [afterSteps, h]
  rfl

theorem afterSteps_succ_of_error {e : Failure} (h : s.step = .error e) (n : Nat) :
    s.afterSteps (n + 1) = none := by
  rw [afterSteps, h]
  rfl

theorem runEnds_zero_iff : s.RunEnds 0 t r ↔ s = t ∧ .ok () = r := by
  constructor
  · intro h
    cases h with
    | complete ht => exact ⟨Option.some.inj ht, rfl⟩
    | failure hk => exact absurd hk (Nat.not_lt_zero _)
  · rintro ⟨rfl, rfl⟩
    exact .complete rfl

theorem runEnds_succ_iff_of_ok {i : Instruction} (h : s.step = .ok (u, i)) :
    s.RunEnds (n + 1) t r ↔ u.RunEnds n t r := by
  constructor
  · intro hr
    cases hr with
    | complete ht => exact .complete (afterSteps_succ_of_ok h n ▸ ht)
    | @failure k t e hk ht he =>
      cases k with
      | zero =>
        -- the step that could not be taken would be the one that was
        obtain rfl := Option.some.inj ht
        rw [h] at he
        cases he
      | succ k => exact .failure (Nat.lt_of_succ_lt_succ hk) (afterSteps_succ_of_ok h k ▸ ht) he
  · intro hr
    cases hr with
    | complete ht => exact .complete ((afterSteps_succ_of_ok h n).trans ht)
    | @failure k t e hk ht he =>
      exact .failure (Nat.succ_lt_succ hk) ((afterSteps_succ_of_ok h k).trans ht) he

theorem runEnds_succ_iff_of_error {e : Failure} (h : s.step = .error e) :
    s.RunEnds (n + 1) t r ↔ s.leftBy e = t ∧ .error (s.told e) = r := by
  constructor
  · intro hr
    cases hr with
    | complete ht =>
      rw [afterSteps_succ_of_error h] at ht
      cases ht
    | @failure k t e' hk ht he =>
      cases k with
      | zero =>
        obtain rfl := Option.some.inj ht
        rw [h] at he
        obtain rfl := Except.error.inj he
        exact ⟨rfl, rfl⟩
      -- there are no steps after one that cannot be taken
      | succ k =>
        rw [afterSteps_succ_of_error h] at ht
        cases ht
  · rintro ⟨rfl, rfl⟩
    exact .failure (Nat.succ_pos n) rfl h

end State

/-! ## One outcome after another -/

namespace Outcome

variable {α β γ : Type}

/-- Goes on from an outcome, unless it is a failure. -/
def andThen (o : Outcome g capacity α) (next : α → Machine g capacity → Outcome g capacity β) :
    Outcome g capacity β :=
  match o.result with
  | .error e => { machine := o.machine, result := .error e, records := o.records }
  | .ok a => { next a o.machine with records := o.records ++ (next a o.machine).records }

theorem andThen_assoc (o : Outcome g capacity α)
    (next : α → Machine g capacity → Outcome g capacity β)
    (last : β → Machine g capacity → Outcome g capacity γ) :
    (o.andThen next).andThen last = o.andThen fun a m ↦ (next a m).andThen last := by
  rw [andThen, andThen, andThen]
  cases o.result with
  | error e => rfl
  | ok a =>
    simp only [andThen]
    cases (next a o.machine).result <;> simp only [List.append_assoc]

theorem map_andThen (o : Outcome g capacity α) (f : α → β)
    (next : β → Machine g capacity → Outcome g capacity γ) :
    (o.map f).andThen next = o.andThen fun a m ↦ next (f a) m := by
  rw [andThen, andThen, map]
  cases o.result <;> rfl

theorem andThen_map (o : Outcome g capacity α)
    (next : α → Machine g capacity → Outcome g capacity β) (f : β → γ) :
    (o.andThen next).map f = o.andThen fun a m ↦ (next a m).map f := by
  rw [andThen, andThen, map]
  cases o.result <;> rfl

theorem map_map (o : Outcome g capacity α) (f : α → β) (f' : β → γ) :
    (o.map f).map f' = o.map fun a ↦ f' (f a) := by
  rw [map, map, map]
  cases o.result <;> rfl

end Outcome

namespace Machine

/-! ## Runs as ticks -/

theorem ticks_records (n : Nat) (m : Machine g capacity) (records : List String) :
    ticks n m records =
      { ticks n m [] with records := records.reverse ++ (ticks n m []).records } := by
  induction n generalizing m records with
  | zero => simp [ticks]
  | succ n ih =>
    rw [ticks, ticks]
    cases m.tick.result with
    | error e => simp
    | ok i =>
      simp only
      rw [ih _ (m.tick.records.reverse ++ records), ih _ (m.tick.records.reverse ++ [])]
      simp

theorem ticks_succ (n : Nat) (m : Machine g capacity) :
    ticks (n + 1) m [] = m.tick.andThen fun _ m' ↦ ticks n m' [] := by
  rw [ticks, Outcome.andThen]
  cases m.tick.result with
  | error e => simp
  | ok i =>
    simp only
    rw [ticks_records]
    simp

theorem ticks_add (a b : Nat) (m : Machine g capacity) :
    ticks (a + b) m [] = (ticks a m []).andThen fun _ m' ↦ ticks b m' [] := by
  induction a generalizing m with
  | zero =>
    rw [Nat.zero_add]
    rfl
  | succ a ih =>
    rw [Nat.succ_add, ticks_succ, ticks_succ, Outcome.andThen_assoc]
    simp only [ih]

theorem run_false (m : Machine g capacity) (n : Int) :
    m.run n false = (ticks n.toNat m []).map fun _ ↦ n.toNat := rfl

theorem run_add (a b : Nat) (m : Machine g capacity) :
    m.run (a + b : Nat) false =
      (m.run a false).andThen fun k m' ↦ (m'.run b false).map fun l ↦ k + l := by
  simp only [run_false, Int.toNat_natCast, ticks_add, Outcome.map_andThen, Outcome.andThen_map,
    Outcome.map_map]

theorem forTicks_none (n : Int) :
    ProgressBar.forTicks n none =
      if Integer.maxDigits < (Nat.toDigits 10 n.natAbs).length then .error .digits
      else if ProgressBar.limit ≤ n.natAbs then .error .double
      else
        .ok { description := "Running (" ++ String.ofList (Numeral.grouped n) ++ " ticks)"
              total := n, unit := "tick" } := by
  rw [ProgressBar.forTicks, ProgressBar.usualDescription]
  by_cases hdigits : Integer.maxDigits < (Nat.toDigits 10 n.natAbs).length
  · rw [if_pos hdigits, if_pos hdigits]
    rfl
  · rw [if_neg hdigits, if_neg hdigits]
    rfl

/-- A progress bar that can be made makes no difference. -/
theorem run_true (n : Int) (m : Machine g capacity) :
    m.run n true =
      if 4300 < (Nat.toDigits 10 n.natAbs).length then m.refuse (.range .digits)
      else if ProgressBar.limit ≤ n.natAbs then m.refuse (.range .double)
      else m.run n false := by
  rw [run, if_pos rfl, forTicks_none, Integer.maxDigits]
  by_cases hdigits : 4300 < (Nat.toDigits 10 n.natAbs).length
  · rw [if_pos hdigits, if_pos hdigits]
  rw [if_neg hdigits, if_neg hdigits]
  by_cases hlimit : ProgressBar.limit ≤ n.natAbs
  · rw [if_pos hlimit, if_pos hlimit]
  · rw [if_neg hlimit, if_neg hlimit]
    rfl

/-- The numbers up to the first one without a bar can be written down. -/
theorem length_toDigits_of_le {n : Nat} (h : n ≤ ProgressBar.limit) :
    (Nat.toDigits 10 n).length ≤ 4300 := by
  show (Nat.toDigits 10 n).length ≤ Integer.maxDigits
  rw [Nat.length_toDigits_le_iff (by decide) (by decide)]
  exact Nat.lt_of_le_of_lt h (by decide +kernel)

theorem run_true_of_lt {n : Nat} (h : n < ProgressBar.limit) (m : Machine g capacity) :
    m.run n true = m.run n false := by
  have hdigits := length_toDigits_of_le (Nat.le_of_lt h)
  rw [run_true, Int.natAbs_natCast, if_neg (Nat.not_lt.mpr hdigits), if_neg (Nat.not_le.mpr h)]

theorem run_true_of_le {n : Nat} (h : ProgressBar.limit ≤ n) (m : Machine g capacity) :
    m.run n true =
      m.refuse (.range (if 4300 < (Nat.toDigits 10 n).length then .digits else .double)) := by
  rw [run_true, Int.natAbs_natCast, if_pos h]
  split <;> rfl

/-! ## Ticks and runs as steps -/

theorem tick_of_stepFailure? {m : Machine g capacity} {e : Failure}
    (h : m.state.stepFailure? = some e) :
    m.tick.result = .error (m.state.told e) ∧ m.tick.machine.state = m.state.leftBy e := by
  rw [tick_of_step_error h]
  cases e <;> exact ⟨rfl, rfl⟩

/-- A tick is a step, but for what becomes of a failure. -/
theorem tick_of_step (m : Machine g capacity) :
    match m.state.step with
    | .ok (t, i) => m.tick.result = .ok i ∧ m.tick.machine.state = t
    | .error e => m.tick.result = .error (m.state.told e) ∧
      m.tick.machine.state = m.state.leftBy e := by
  cases hstep : m.state.step with
  | ok r =>
    obtain ⟨operation, hs, hi⟩ := State.step_eq_ok_iff.mp hstep
    rw [tick_of_steps hs, ← hi]
    exact ⟨rfl, rfl⟩
  | error e => exact tick_of_stepFailure? (State.step_eq_error_iff.mp hstep)

theorem runEnds_iff_ticks (n : Nat) (m : Machine g capacity) (records : List String)
    {t : State g capacity} {r : Except Failure Unit} :
    m.state.RunEnds n t r ↔
      (ticks n m records).machine.state = t ∧ (ticks n m records).result = r := by
  induction n generalizing m records with
  | zero => exact State.runEnds_zero_iff
  | succ n ih =>
    have htick := m.tick_of_step
    rw [ticks]
    cases hstep : m.state.step with
    | ok p =>
      obtain ⟨u, i⟩ := p
      rw [hstep] at htick
      obtain ⟨hresult, rfl⟩ := htick
      rw [State.runEnds_succ_iff_of_ok hstep, ih, hresult]
    | error e =>
      rw [hstep] at htick
      obtain ⟨hresult, hstate⟩ := htick
      rw [State.runEnds_succ_iff_of_error hstep, hresult, hstate]

/-- **Ticks and runs simulate steps.** A tick succeeds where a step does, with the same instruction
and the same state; otherwise it fails for the same cause. If that is a fault the timers have
counted, and if it is a sprite on an oversized screen the machine is as it was. A run takes the
steps that it is asked for, or those before the first that cannot be taken, in one part or in two. A
progress bar changes nothing, unless there is none for so many ticks: a number of more than 4300
digits cannot be written down, and one from `2 ^ 1024 - 2 ^ 970` on cannot be measured. -/
theorem run_simulates_steps (m : Machine g capacity) :
    (match m.state.step with
      | .ok (t, i) => m.tick.result = .ok i ∧ m.tick.machine.state = t
      | .error e =>
        (∃ f f' : Fault, e = .fault f ∧ m.tick.result = .error (.fault f') ∧
          f'.cause = f.cause ∧ m.tick.machine.state = m.state.tickTimers) ∨
        ∃ length : Nat, 0x80000000 ≤ length ∧ (length = g.width ∨ length = g.height) ∧
          e = .range (.operand .divisor length) ∧ m.tick = m.refuse e) ∧
    (∀ (n : Int) (t : State g capacity) (r : Except Failure Unit),
      m.state.RunEnds n.toNat t r ↔ (m.run n false).machine.state = t ∧
        (m.run n false).result = r.map fun _ ↦ n.toNat) ∧
    (∀ a b : Nat, m.run (a + b : Nat) false =
      (m.run a false).andThen fun k m' ↦ (m'.run b false).map fun l ↦ k + l) ∧
    ∀ n : Int, m.run n true =
      if 4300 < (Nat.toDigits 10 n.natAbs).length then m.refuse (.range .digits)
      else if (1 <<< 1024) - (1 <<< 970) ≤ n.natAbs then m.refuse (.range .double)
      else m.run n false := by
  refine ⟨?_, fun n t r ↦ ?_, fun a b ↦ run_add a b m, fun n ↦ run_true n m⟩
  · have htick := m.tick_of_step
    cases hstep : m.state.step with
    | ok p =>
      rw [hstep] at htick
      exact htick
    | error e =>
      rw [hstep] at htick
      obtain ⟨f, rfl⟩ | ⟨length, hlength, rfl⟩ :=
        State.fault_or_overflows (State.step_eq_error_iff.mp hstep)
      · exact .inl ⟨f, _, rfl, htick.1, Fault.cause_located .., htick.2⟩
      · obtain ⟨hle, hside⟩ := Geometry.le_of_oversize? hlength.oversize?_eq
        exact .inr ⟨length, hle, hside, rfl, tick_of_overflows hlength⟩
  · rw [runEnds_iff_ticks n.toNat m [], run_false, Outcome.map]
    refine and_congr_right fun _ ↦ ?_
    cases (ticks n.toNat m []).result <;> cases r <;> simp [Except.map]

/-- A run that fails at its first tick does not even begin if it is to have a progress bar for more
ticks than there is one for. -/
theorem run_changed_by_progress_bar :
    ((new (.usual 0) (.plain .info)).run ProgressBar.limit true).result =
        .error (.range .double) ∧
      ((new (.usual 0) (.plain .info)).run ProgressBar.limit false).result =
        .error (.fault { cause := .unknownOpcode 0, pc := some 0x200, opcode := some 0 }) := by
  constructor
  · have hdigits := length_toDigits_of_le (Nat.le_refl ProgressBar.limit)
    rw [run_true, Int.natAbs_natCast, if_neg (Nat.not_lt.mpr hdigits), if_pos (Nat.le_refl _)]
    rfl
  · have hfault : (new (.usual 0) (.plain .info)).state.stepFailure? =
        some (.fault (.unknownOpcode 0)) := by decide +kernel
    have hends : (new (.usual 0) (.plain .info)).state.RunEnds ProgressBar.limit _ _ :=
      .failure (by decide +kernel : 0 < ProgressBar.limit) rfl
        (State.step_eq_error_iff.mpr hfault)
    have hlocate : (new (.usual 0) (.plain .info)).state.locate (.unknownOpcode 0) =
        { cause := .unknownOpcode 0, pc := some 0x200, opcode := some 0 } := by decide +kernel
    rw [run_false, Int.toNat_natCast, Outcome.map, ((runEnds_iff_ticks _ _ []).mp hends).2,
      State.told, hlocate]
    rfl

end Machine

end ChipEight
