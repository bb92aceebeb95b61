import ChipEight.Proofs.Runs

/-!
# Trying again after a fault

A host may let a machine go on after a tick that has failed. It will not get far: a fault has let
the timers count and done nothing else, and nothing that can go wrong with a cycle looks at the
timers. One operation reads a timer, but it reads it into a register, and no fault depends on what
it has read. So the next tick meets the same fault at the same place, and so does every tick after
it, until something else is changed. A tick that was refused has not even let the timers count.
-/

namespace ChipEight

variable {g : Geometry} {capacity : Nat}

/-! ## Counting many times -/

theorem Byte.toNat_ofNat_sub (b : Byte) (n : Nat) :
    (BitVec.ofNat 8 (b.toNat - n)).toNat = b.toNat - n := by
  rw [BitVec.toNat_ofNat, Nat.mod_eq_of_lt (Nat.lt_of_le_of_lt (Nat.sub_le ..) b.isLt)]

namespace State

/-- Counts both timers down by some number, as far as zero. -/
def countDown (s : State g capacity) (n : Nat) : State g capacity :=
  { s with
    delayTimer := BitVec.ofNat 8 (s.delayTimer.toNat - n)
    soundTimer := BitVec.ofNat 8 (s.soundTimer.toNat - n) }

@[simp] theorem countDown_zero (s : State g capacity) : s.countDown 0 = s := by
  simp [countDown]

theorem countDown_tickTimers (s : State g capacity) (n : Nat) :
    s.tickTimers.countDown n = s.countDown (n + 1) := by
  simp only [countDown, tickTimers, Byte.toNat_ofNat_sub, Nat.sub_sub, Nat.add_comm 1]

/-! ## The same fault -/

theorem stepFailure?_tickTimers (s : State g capacity) :
    s.tickTimers.stepFailure? = s.stepFailure? :=
  s.stepFailure?_besides s.rng s.screen s.tickTimers.delayTimer s.tickTimers.soundTimer

end State

namespace Machine

theorem exists_stepFailure?_of_tick {m : Machine g capacity} {e : Failure}
    (h : m.tick.result = .error e) :
    ∃ e', m.state.stepFailure? = some e' ∧ e = m.state.told e' := by
  rcases m.state.steps_or_stepFailure? with ⟨operation, t, hs⟩ | ⟨e', he'⟩
  · rw [tick_of_steps hs] at h
    cases h
  · rw [(tick_of_stepFailure? he').1] at h
    exact ⟨e', he', (Except.error.inj h).symm⟩

/-- If every tick of some machines has the same result and moves their states on in the same way,
and the machine that it leaves is one of them, then many ticks move a state on as many times. -/
theorem ticks_of_repeating (move : Nat → State g capacity → State g capacity)
    {P : Machine g capacity → Prop} {r : Except Failure Instruction} (hzero : ∀ s, move 0 s = s)
    (hP : ∀ m, P m → m.tick.result = r ∧ P m.tick.machine ∧
      ∀ n, move n m.tick.machine.state = move (n + 1) m.state)
    (n : Nat) {m : Machine g capacity} (h : P m) :
    (m.outcomes (List.replicate n .tick)).map Outcome.result =
        List.replicate n (r.map .executed) ∧
      (m.after (List.replicate n .tick)).state = move n m.state := by
  induction n generalizing m with
  | zero => exact ⟨rfl, (hzero m.state).symm⟩
  | succ n ih =>
    obtain ⟨hresult, hleft, hmove⟩ := hP m h
    have hobey : (m.obey .tick).result = r.map .executed := congrArg (Except.map _) hresult
    obtain ⟨hresults, hafter⟩ := ih (m := (m.obey .tick).machine) hleft
    rw [List.replicate_succ, outcomes, List.map_cons, after_cons, hobey, hresults, hafter]
    exact ⟨rfl, hmove n⟩

theorem ticks_of_fault (n : Nat) {m : Machine g capacity} {f : Fault}
    (h : m.state.stepFailure? = some (.fault f)) :
    (m.outcomes (List.replicate n .tick)).map Outcome.result =
        List.replicate n (.error (.fault (m.state.locate f))) ∧
      (m.after (List.replicate n .tick)).state = m.state.countDown n := by
  -- the machine that the fault leaves is about to meet it again, at the same place
  refine ticks_of_repeating (fun n s ↦ s.countDown n) (r := .error (.fault (m.state.locate f)))
    (P := fun m' ↦ m'.state.stepFailure? = some (.fault f) ∧ m'.state.locate f = m.state.locate f)
    State.countDown_zero (fun m' ⟨hf, hlocate⟩ ↦ ?_) n ⟨h, rfl⟩
  obtain ⟨hresult, hstate⟩ := tick_of_stepFailure? hf
  rw [hresult, hstate, State.told, hlocate]
  exact ⟨rfl, ⟨(State.stepFailure?_tickTimers _).trans hf, hlocate⟩,
    State.countDown_tickTimers m'.state⟩

theorem ticks_of_overflows (n : Nat) {m : Machine g capacity} {length : Nat}
    (h : m.state.Overflows length) :
    (m.outcomes (List.replicate n .tick)).map Outcome.result =
        List.replicate n (.error (.range (.operand .divisor length))) ∧
      (m.after (List.replicate n .tick)).state = m.state := by
  refine ticks_of_repeating (fun _ s ↦ s) (r := .error (.range (.operand .divisor length)))
    (P := fun m' ↦ m'.state.Overflows length) (fun _ ↦ rfl) (fun m' h' ↦ ?_) n h
  rw [tick_of_overflows h']
  exact ⟨rfl, h', fun _ ↦ rfl⟩

/-- **Faults are sticky.** After a tick that has failed, every further tick fails in the same way,
and all that becomes different is that after a fault the timers go on counting. -/
theorem tick_fault_repeats (m : Machine g capacity) {e : Failure} (h : m.tick.result = .error e)
    (n : Nat) :
    (m.outcomes (List.replicate (n + 1) .tick)).map Outcome.result =
        List.replicate (n + 1) (.error e) ∧
      (m.after (List.replicate (n + 1) .tick)).state =
        match e with
        | .fault _ =>
          { m.state with
            delayTimer := BitVec.ofNat 8 (m.state.delayTimer.toNat - (n + 1))
            soundTimer := BitVec.ofNat 8 (m.state.soundTimer.toNat - (n + 1)) }
        | _ => m.state := by
  obtain ⟨e', he', rfl⟩ := exists_stepFailure?_of_tick h
  -- of the two ways to fail only a fault lets the timers count
  obtain ⟨f, rfl⟩ | ⟨length, hlength, rfl⟩ := State.fault_or_overflows he'
  · exact ticks_of_fault (n + 1) he'
  · exact ticks_of_overflows (n + 1) hlength

/-- A machine that has set its delay timer to two comes to a word that is no instruction. -/
theorem tick_fault_repeats_of_no_instruction :
    let m := (new (.usual 0) (.plain .info)).after
      [.loadRom [0x60, 0x02, 0xF0, 0x15], .run 2 false]
    m.tick.result =
        .error (.fault { cause := .unknownOpcode 0, pc := some 0x204, opcode := some 0 }) ∧
      m.state.delayTimer = 2 ∧
      (m.after (List.replicate 4 .tick)).state =
        { m.state with delayTimer := 0, soundTimer := 0 } := by
  intro m
  obtain ⟨hfault, hlocate, hdelay, hsound⟩ :
      m.state.stepFailure? = some (.fault (.unknownOpcode 0)) ∧
      m.state.locate (.unknownOpcode 0) =
        { cause := .unknownOpcode 0, pc := some 0x204, opcode := some 0 } ∧
      m.state.delayTimer = 2 ∧ m.state.soundTimer = 0 := by decide +kernel
  have hresult : m.tick.result =
      .error (.fault { cause := .unknownOpcode 0, pc := some 0x204, opcode := some 0 }) := by
    rw [(tick_of_stepFailure? hfault).1, State.told, hlocate]
  refine ⟨hresult, hdelay, ?_⟩
  rw [(m.tick_fault_repeats hresult 3).2, hdelay, hsound]
  rfl

end Machine

end ChipEight
