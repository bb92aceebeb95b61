import ChipEight.Machine
import ChipEight.Proofs.Effect

/-!
# One cycle of the machine

A cycle counts the timers down, fetches, decodes and executes. It can stop at three places, and
`State.step_eq` lists them. A tick of a machine is a cycle that is told about: `Machine.tick` stops
where `State.step` stops, and differs from it only in what becomes of a fault.

## Faults are atomic

A tick that faults has counted the timers and done nothing else. There is nothing to undo, even
where an instruction had its effect before the program counter was found wanting, because the effect
is a new state and the old one is still there.

## Refusals

A tick that comes to a sprite on an oversized screen is refused: it fails without being a fault.
Nothing has become of it then, and not even the timers have counted. `State.Overflows` says when
that happens.
-/

namespace ChipEight

/-! ## Fetching -/

theorem Opcode.value_ofBytes (high low : Byte) :
    (Opcode.ofBytes high low).value = 256 * high.toNat + low.toNat := by
  rw [Opcode.value, Opcode.ofBytes, BitVec.toNat_append, ← Nat.shiftLeft_add_eq_or_of_lt low.isLt,
    Nat.shiftLeft_eq, Nat.mul_comm]

theorem Opcode.operation?_of_decode {o : Opcode} {i : Instruction} (h : o.decode = .ok i) :
    o.operation? = some i.operation ∧ i = o.withOperation i.operation := by
  rw [decode] at h
  cases hoperation : o.operation? with
  | none =>
    rw [hoperation] at h
    cases h
  | some operation =>
    rw [hoperation] at h
    obtain rfl := Except.ok.inj h
    exact ⟨rfl, rfl⟩

theorem Memory.outside?_eq_some_iff {a k : Nat} {c : Cause} :
    Memory.outside? a k = some c ↔ (0 < k ∧ memorySize < a + k) ∧ c = .memoryAccess a k := by
  rw [Memory.outside?]
  split
  · next h => simp only [h, Option.some.injEq, eq_comm, and_self, true_and]
  · next h => simp only [h, reduceCtorEq, false_and]

theorem Memory.kind_of_outside? {a k : Nat} {c : Cause} (h : Memory.outside? a k = some c) :
    c.kind = .memoryAccess := by
  rw [(Memory.outside?_eq_some_iff.mp h).2]
  rfl

/-- A block lies in memory, or it is empty and may lie anywhere. -/
theorem Memory.outside?_eq_none {a k : Nat} :
    Memory.outside? a k = none ↔ (0 < k → a + k ≤ memorySize) := by
  rw [Memory.outside?, ite_eq_right_iff]
  simp only [reduceCtorEq, imp_false, not_and, Nat.not_lt]

theorem Memory.outside?_zero (a : Nat) : Memory.outside? a 0 = none :=
  outside?_eq_none.mpr fun h ↦ absurd h (Nat.lt_irrefl 0)

theorem Memory.outside?_eq_none_iff {a k : Nat} (hk : 0 < k) :
    Memory.outside? a k = none ↔ a + k ≤ memorySize := by
  rw [outside?_eq_none]
  exact ⟨fun h ↦ h hk, fun h _ ↦ h⟩

namespace State

variable {g : Geometry} {capacity : Nat}

def opcode (s : State g capacity) : Opcode :=
  .ofBytes (s.memory.read s.pc.toNat) (s.memory.read (s.pc.toNat + 1))

theorem fetch_eq (s : State g capacity) :
    s.fetch =
      match Memory.outside? s.pc.toNat 2 with
      | some c => .error { cause := c }
      | none => .ok s.opcode := by
  rw [fetch, checkPc_eq]
  cases Memory.outside? s.pc.toNat 2 <;> rfl

theorem eq_opcode_of_fetch {s : State g capacity} {o : Opcode} (h : s.fetch = .ok o) :
    o = s.opcode := by
  rw [fetch_eq] at h
  cases hpc : Memory.outside? s.pc.toNat 2 with
  | some c => simp only [hpc, reduceCtorEq] at h
  | none =>
    rw [hpc] at h
    exact (Except.ok.inj h).symm

/-- A word is fetched exactly where a whole instruction has room. -/
theorem fetch_eq_ok_iff {s : State g capacity} :
    s.fetch = .ok s.opcode ↔ s.pc.toNat + 2 ≤ memorySize := by
  rw [fetch_eq, ← Memory.outside?_eq_none_iff (by decide)]
  cases Memory.outside? s.pc.toNat 2 <;> simp only [reduceCtorEq]

/-! ## Where a cycle stops -/

/-- What a cycle reports, if it stops: no whole instruction stands at the program counter, the word
there is no instruction, or the instruction goes wrong. -/
def stepFailure? (s : State g capacity) : Option Failure :=
  match Memory.outside? s.pc.toNat 2 with
  | some c => some (.fault { cause := c })
  | none =>
    match s.opcode.operation? with
    | none => some (.fault (.unknownOpcode s.opcode.value))
    | some operation => s.failure? s.opcode operation

/-- The ways of a cycle that is not stopped: what it starts from, the operation it comes to, and
what it leaves. -/
structure Steps (s : State g capacity) (operation : Operation) (t : State g capacity) : Prop where
  /-- A whole instruction stands at the program counter. -/
  pc_le : s.pc.toNat + 2 ≤ memorySize
  /-- The instruction is of this operation. -/
  operation?_opcode : s.opcode.operation? = some operation
  /-- Nothing keeps it from taking effect. -/
  obstacle?_eq : s.obstacle? s.opcode operation = none
  /-- It can be computed on this screen. -/
  overflow?_eq : g.overflow? operation = none
  /-- A whole instruction stands where execution goes on. -/
  nextAddress_le : s.nextAddress s.opcode operation + 2 ≤ memorySize
  /-- It takes effect after the timers have counted. -/
  eq_next : t = s.tickTimers.next s.opcode operation

/-- That a cycle comes to a sprite, with nothing wrong about the sprite, on a screen with a side of
this length, which is too long. -/
structure Overflows (s : State g capacity) (length : Nat) : Prop where
  pc_le : s.pc.toNat + 2 ≤ memorySize
  operation?_opcode : s.opcode.operation? = some .draw
  rows_le : 0 < s.opcode.n4 → s.index.toNat + s.opcode.n4 ≤ memorySize
  oversize?_eq : g.oversize? = some length

/-! ### What stays out of it

Neither what can go wrong nor where execution goes on has to do with the random source, the screen
or the timers. -/

/-- The state with other contents in what no fault and no program counter depends on. -/
def besides (s : State g capacity) (rng : Key) (screen : Screen g) (delayTimer soundTimer : Byte) :
    State g capacity :=
  { s with rng, screen, delayTimer, soundTimer }

section Besides

variable (s : State g capacity) (rng : Key) (screen : Screen g) (delayTimer soundTimer : Byte)

theorem obstacle?_besides (o : Opcode) (operation : Operation) :
    (s.besides rng screen delayTimer soundTimer).obstacle? o operation =
      s.obstacle? o operation := by
  cases operation <;> rfl

theorem nextAddress_besides (o : Opcode) (operation : Operation) :
    (s.besides rng screen delayTimer soundTimer).nextAddress o operation =
      s.nextAddress o operation := by
  cases operation <;> rfl

theorem failure?_besides (o : Opcode) (operation : Operation) :
    (s.besides rng screen delayTimer soundTimer).failure? o operation =
      s.failure? o operation := by
  rw [failure?, failure?, obstacle?_besides, nextAddress_besides]

theorem stepFailure?_besides :
    (s.besides rng screen delayTimer soundTimer).stepFailure? = s.stepFailure? := by
  have hopcode : (s.besides rng screen delayTimer soundTimer).opcode = s.opcode := rfl
  have hpc : (s.besides rng screen delayTimer soundTimer).pc = s.pc := rfl
  simp only [stepFailure?, hopcode, hpc, failure?_besides]

theorem waitKey_besides (x : Fin registerCount) :
    (s.besides rng screen delayTimer soundTimer).waitKey x =
      (s.waitKey x).besides rng screen delayTimer soundTimer := by
  have hkey : (s.besides rng screen delayTimer soundTimer).lowestKey? = s.lowestKey? := rfl
  rw [waitKey, waitKey, hkey]
  cases s.lowestKey? <;> rfl

/-- What an effect makes of other contents is what the whole cycle makes of them, because the
program counter moves the same way. -/
theorem next_besides {s : State g capacity} {o : Opcode} {operation : Operation} {rng' : Key}
    {screen' : Screen g} {delayTimer' soundTimer' : Byte}
    (h : (s.besides rng screen delayTimer soundTimer).effect o operation =
      (s.effect o operation).besides rng' screen' delayTimer' soundTimer') :
    (s.besides rng screen delayTimer soundTimer).next o operation =
      (s.next o operation).besides rng' screen' delayTimer' soundTimer' := by
  rw [next, next, h, nextAddress_besides]
  rfl

/-- A cycle goes the same way whatever these contents are. -/
theorem Steps.besides {s t : State g capacity} {operation : Operation} (hs : s.Steps operation t) :
    (s.besides rng screen delayTimer soundTimer).Steps operation
      ((s.besides rng screen delayTimer soundTimer).tickTimers.next s.opcode operation) where
  pc_le := hs.pc_le
  operation?_opcode := hs.operation?_opcode
  obstacle?_eq := (obstacle?_besides ..).trans hs.obstacle?_eq
  overflow?_eq := hs.overflow?_eq
  nextAddress_le := (nextAddress_besides ..).symm ▸ hs.nextAddress_le
  eq_next := rfl

end Besides

theorem failure?_tickTimers (s : State g capacity) (o : Opcode) (operation : Operation) :
    s.tickTimers.failure? o operation = s.failure? o operation :=
  s.failure?_besides s.rng s.screen s.tickTimers.delayTimer s.tickTimers.soundTimer o operation

theorem failure?_eq_none_iff {s : State g capacity} {o : Opcode} {operation : Operation} :
    s.failure? o operation = none ↔
      s.obstacle? o operation = none ∧ g.overflow? operation = none ∧
        s.nextAddress o operation + 2 ≤ memorySize := by
  rw [failure?, ← Memory.outside?_eq_none_iff (by decide)]
  cases s.obstacle? o operation with
  | some c => simp
  | none =>
    cases g.overflow? operation with
    | some e => simp
    | none => cases Memory.outside? (s.nextAddress o operation) 2 <;> simp

theorem step_eq (s : State g capacity) :
    s.step =
      match Memory.outside? s.pc.toNat 2 with
      | some c => .error (.fault { cause := c })
      | none =>
        match s.opcode.operation? with
        | none => .error (.fault (.unknownOpcode s.opcode.value))
        | some operation =>
          match s.failure? s.opcode operation with
          | some e => .error e
          | none =>
            .ok (s.tickTimers.next s.opcode operation, s.opcode.withOperation operation) := by
  -- the timers are counted first, and fetching does not look at them
  have hfetch : s.tickTimers.fetch = s.fetch := rfl
  rw [step, hfetch, fetch_eq]
  cases Memory.outside? s.pc.toNat 2 with
  | some c => rfl
  | none =>
    show (do
      let i ← s.opcode.decode.mapError Failure.fault
      return (← s.tickTimers.executeInstruction i, i)) = _
    rw [Opcode.decode]
    cases s.opcode.operation? with
    | none => rfl
    | some operation =>
      show (do
        let t ← s.tickTimers.executeInstruction (s.opcode.withOperation operation)
        return (t, s.opcode.withOperation operation)) = _
      rw [executeInstruction_withOperation, failure?_tickTimers]
      cases hf : s.failure? s.opcode operation <;> simp only [hf] <;> rfl

theorem step_eq_error_iff {s : State g capacity} {e : Failure} :
    s.step = .error e ↔ s.stepFailure? = some e := by
  rw [step_eq, stepFailure?]
  cases Memory.outside? s.pc.toNat 2 with
  | some c => simp
  | none =>
    cases s.opcode.operation? with
    | none => simp
    | some operation => cases h : s.failure? s.opcode operation <;> simp [h]

theorem step_eq_ok_iff {s t : State g capacity} {i : Instruction} :
    s.step = .ok (t, i) ↔
      ∃ operation, s.Steps operation t ∧ i = s.opcode.withOperation operation := by
  rw [step_eq]
  constructor
  · intro h
    cases hpc : Memory.outside? s.pc.toNat 2 with
    | some c => simp [hpc] at h
    | none =>
      cases hop : s.opcode.operation? with
      | none => simp [hpc, hop] at h
      | some operation =>
        cases hf : s.failure? s.opcode operation with
        | some e => simp [hpc, hop, hf] at h
        | none =>
          simp only [hpc, hop, hf, Except.ok.injEq, Prod.mk.injEq] at h
          obtain ⟨rfl, rfl⟩ := h
          obtain ⟨hobstacle, hoverflow, hnext⟩ := failure?_eq_none_iff.mp hf
          have hle := (Memory.outside?_eq_none_iff (by decide)).mp hpc
          exact ⟨operation, ⟨hle, hop, hobstacle, hoverflow, hnext, rfl⟩, rfl⟩
  · rintro ⟨operation, ⟨hpc, hop, hobstacle, hoverflow, hnext, rfl⟩, rfl⟩
    rw [(Memory.outside?_eq_none_iff (by decide)).mpr hpc]
    simp only [hop, failure?_eq_none_iff.mpr ⟨hobstacle, hoverflow, hnext⟩]

theorem Steps.stepFailure?_eq_none {s t : State g capacity} {operation : Operation}
    (hs : s.Steps operation t) : s.stepFailure? = none := by
  rw [stepFailure?, (Memory.outside?_eq_none_iff (by decide)).mpr hs.pc_le]
  simp only [hs.operation?_opcode,
    failure?_eq_none_iff.mpr ⟨hs.obstacle?_eq, hs.overflow?_eq, hs.nextAddress_le⟩]

theorem steps_or_stepFailure? (s : State g capacity) :
    (∃ operation t, s.Steps operation t) ∨ ∃ e, s.stepFailure? = some e := by
  cases hstep : s.step with
  | ok r =>
    obtain ⟨operation, hs, -⟩ := step_eq_ok_iff.mp hstep
    exact .inl ⟨operation, r.1, hs⟩
  | error e => exact .inr ⟨e, step_eq_error_iff.mp hstep⟩

/-! ## What a cycle can report -/

theorem kind_of_obstacle?_of_ne {s : State g capacity} {o : Opcode} {operation : Operation}
    {c : Cause} (hcall : operation ≠ .call) (hret : operation ≠ .ret)
    (h : s.obstacle? o operation = some c) : c.kind = .memoryAccess := by
  cases operation with
  | call => exact absurd rfl hcall
  | ret => exact absurd rfl hret
  | _ => exact Memory.kind_of_outside? h

theorem kind_of_obstacle? {s : State g capacity} {o : Opcode} {operation : Operation} {c : Cause}
    (h : s.obstacle? o operation = some c) :
    c.kind ∈ [FaultKind.stackOverflow, .stackUnderflow, .memoryAccess] := by
  by_cases hstack : operation = .call ∨ operation = .ret
  · rcases hstack with rfl | rfl
    all_goals
      simp only [obstacle?, Option.ite_none_right_eq_some, Option.some.injEq] at h
      simp [← h.2, Cause.kind]
  · rw [not_or] at hstack
    simp [kind_of_obstacle?_of_ne hstack.1 hstack.2 h]

theorem kind_of_failure? {s : State g capacity} {o : Opcode} {operation : Operation} {f : Fault}
    (h : s.failure? o operation = some (.fault f)) :
    f.kind ∈ [FaultKind.stackOverflow, .stackUnderflow, .memoryAccess] ∧
      f = { cause := f.cause } := by
  rw [failure?] at h
  cases hobstacle : s.obstacle? o operation with
  | some c =>
    simp only [hobstacle, Option.some.injEq, Failure.fault.injEq] at h
    rw [← h]
    exact ⟨kind_of_obstacle? hobstacle, rfl⟩
  | none =>
    cases hoverflow : g.overflow? operation with
    | some e => simp [hobstacle, hoverflow] at h
    | none =>
      cases hnext : Memory.outside? (s.nextAddress o operation) 2 with
      | none => simp [hobstacle, hoverflow, hnext] at h
      | some c =>
        simp only [hobstacle, hoverflow, hnext, Option.some.injEq, Failure.fault.injEq] at h
        rw [← h]
        exact ⟨by simp [Fault.kind, Memory.kind_of_outside? hnext], rfl⟩

/-- A cycle reports a fault of one of four kinds. The only place that it knows of is the opcode of a
word that is no instruction. -/
theorem stepFailure?_spec {s : State g capacity} {f : Fault}
    (h : s.stepFailure? = some (.fault f)) :
    f.kind ∈ [FaultKind.unknownOpcode, .stackOverflow, .stackUnderflow, .memoryAccess] ∧
      f.pc = none ∧
      (f.opcode = none ∨ ∃ o, s.fetch = .ok o ∧ f.opcode = some (o.value : Int)) := by
  rw [stepFailure?] at h
  rw [fetch_eq]
  cases hpc : Memory.outside? s.pc.toNat 2 with
  | some c =>
    rw [hpc] at h
    obtain rfl := Failure.fault.inj (Option.some.inj h)
    simp [Fault.kind, Memory.kind_of_outside? hpc]
  | none =>
    cases hop : s.opcode.operation? with
    | none =>
      simp only [hpc, hop, Option.some.injEq, Failure.fault.injEq] at h
      subst h
      exact ⟨List.mem_cons_self, rfl, .inr ⟨_, rfl, rfl⟩⟩
    | some operation =>
      simp only [hpc, hop] at h
      obtain ⟨hkind, hf⟩ := kind_of_failure? h
      rw [hf]
      exact ⟨List.mem_cons_of_mem _ hkind, rfl, .inl rfl⟩

theorem Overflows.stepFailure?_eq {s : State g capacity} {length : Nat} (h : s.Overflows length) :
    s.stepFailure? = some (.range (.operand .divisor length)) := by
  have hobstacle : s.obstacle? s.opcode .draw = none := Memory.outside?_eq_none.mpr h.rows_le
  have hoverflow : g.overflow? .draw = some (.operand .divisor length) :=
    Geometry.overflow?_eq_some_iff.mpr ⟨rfl, length, h.oversize?_eq, rfl⟩
  rw [stepFailure?, (Memory.outside?_eq_none_iff (by decide)).mpr h.pc_le]
  simp only [h.operation?_opcode, failure?, hobstacle, hoverflow]

theorem fault_or_overflow_of_failure? {s : State g capacity} {o : Opcode} {operation : Operation}
    {e : Failure} (h : s.failure? o operation = some e) :
    (∃ f, e = .fault f) ∨
      ∃ e', s.obstacle? o operation = none ∧ g.overflow? operation = some e' ∧ e = .range e' := by
  rw [failure?] at h
  cases hobstacle : s.obstacle? o operation with
  | some c =>
    simp only [hobstacle, Option.some.injEq] at h
    exact .inl ⟨_, h.symm⟩
  | none =>
    cases hoverflow : g.overflow? operation with
    | some e' =>
      simp only [hobstacle, hoverflow, Option.some.injEq] at h
      exact .inr ⟨e', rfl, rfl, h.symm⟩
    | none =>
      cases hnext : Memory.outside? (s.nextAddress o operation) 2 with
      | none => simp [hobstacle, hoverflow, hnext] at h
      | some c =>
        simp only [hobstacle, hoverflow, hnext, Option.some.injEq] at h
        exact .inl ⟨_, h.symm⟩

/-- A cycle stops at a fault or at a sprite on an oversized screen. -/
theorem fault_or_overflows {s : State g capacity} {e : Failure} (h : s.stepFailure? = some e) :
    (∃ f, e = .fault f) ∨
      ∃ length : Nat, s.Overflows length ∧ e = .range (.operand .divisor length) := by
  rw [stepFailure?] at h
  cases hpc : Memory.outside? s.pc.toNat 2 with
  | some c =>
    rw [hpc] at h
    exact .inl ⟨_, (Option.some.inj h).symm⟩
  | none =>
    cases hop : s.opcode.operation? with
    | none =>
      simp only [hpc, hop, Option.some.injEq] at h
      exact .inl ⟨_, h.symm⟩
    | some operation =>
      simp only [hpc, hop] at h
      -- drawing is the one operation that can fail without a fault
      obtain hfault | ⟨e', hobstacle, hoverflow, rfl⟩ := fault_or_overflow_of_failure? h
      · exact .inl hfault
      · obtain ⟨rfl, length, hlength, rfl⟩ := Geometry.overflow?_eq_some_iff.mp hoverflow
        have hle := (Memory.outside?_eq_none_iff (by decide)).mp hpc
        exact .inr ⟨length, ⟨hle, hop, Memory.outside?_eq_none.mp hobstacle, hlength⟩, rfl⟩

/-- The fault of a cycle, once it is told its place, names the word that was fetched. -/
theorem opcode_located_of_stepFailure? {s : State g capacity} {f : Fault}
    (h : s.stepFailure? = some (.fault f)) (pc : Int) :
    (f.located pc (s.fetch.toOption.map fun o ↦ (o.value : Int))).opcode =
      match s.fetch with
      | .ok _ => some (256 * (s.memory.read s.pc.toNat).toNat +
          (s.memory.read (s.pc.toNat + 1)).toNat : Int)
      | .error _ => none := by
  -- a fault that knows its opcode already was reported of the word that was fetched
  obtain ⟨-, -, hopcode⟩ := stepFailure?_spec h
  simp only [Fault.located]
  cases hfetch : s.fetch with
  | error e =>
    obtain hnone | ⟨o, ho, -⟩ := hopcode
    · rw [hnone]
      rfl
    · rw [hfetch] at ho
      cases ho
  | ok o =>
    have hvalue : (o.value : Int) = 256 * (s.memory.read s.pc.toNat).toNat +
        (s.memory.read (s.pc.toNat + 1)).toNat := by
      rw [eq_opcode_of_fetch hfetch, opcode, Opcode.value_ofBytes]
      rfl
    obtain hnone | ⟨o', ho, hsome⟩ := hopcode
    · rw [hnone, ← hvalue]
      rfl
    · rw [hfetch] at ho
      obtain rfl := Except.ok.inj ho
      rw [hsome, ← hvalue]
      rfl

end State

/-! ## Ticks and cycles -/

namespace Machine

variable {g : Geometry} {capacity : Nat}

theorem tick_of_steps {m : Machine g capacity} {t : State g capacity} {operation : Operation}
    (hs : m.state.Steps operation t) :
    m.tick = m.announce t .debug (trace m.state.pc (m.state.opcode.withOperation operation))
      (.ok (m.state.opcode.withOperation operation)) := by
  have hfetch : m.state.tickTimers.fetch = .ok m.state.opcode :=
    State.fetch_eq_ok_iff.mpr hs.pc_le
  have hexec : m.state.tickTimers.executeInstruction (m.state.opcode.withOperation operation) =
      .ok t := by
    rw [State.executeInstruction_withOperation, State.failure?_tickTimers,
      State.failure?_eq_none_iff.mpr ⟨hs.obstacle?_eq, hs.overflow?_eq, hs.nextAddress_le⟩,
      hs.eq_next]
  simp only [tick, hfetch, Opcode.decode, hs.operation?_opcode, hexec]
  rfl

theorem tick_of_step_error {m : Machine g capacity} {e : Failure}
    (h : m.state.stepFailure? = some e) :
    m.tick =
      match e with
      | .fault f => m.faultTick m.state.tickTimers m.state.fetch.toOption f
      | e => m.refuse e := by
  -- the timers are counted first, and fetching does not look at them
  have hfetch : m.state.tickTimers.fetch = m.state.fetch := rfl
  rw [State.stepFailure?] at h
  simp only [tick, hfetch, State.fetch_eq]
  cases hpc : Memory.outside? m.state.pc.toNat 2 with
  | some c =>
    rw [hpc] at h
    obtain rfl := Option.some.inj h
    rfl
  | none =>
    cases hop : m.state.opcode.operation? with
    | none =>
      simp only [hpc, hop, Option.some.injEq] at h
      subst h
      simp only [Opcode.decode, hop]
      rfl
    | some operation =>
      simp only [hpc, hop] at h
      simp only [Opcode.decode, hop, State.executeInstruction_withOperation,
        State.failure?_tickTimers, h]
      cases e <;> rfl

theorem tick_of_overflows {m : Machine g capacity} {length : Nat}
    (h : m.state.Overflows length) : m.tick = m.refuse (.range (.operand .divisor length)) :=
  tick_of_step_error h.stepFailure?_eq

/-- A tick is a cycle that has come to its end, one that has stopped at a fault, or one that is
refused. -/
theorem tick_cases (m : Machine g capacity) :
    (∃ operation t, m.state.Steps operation t ∧
      m.tick = m.announce t .debug (trace m.state.pc (m.state.opcode.withOperation operation))
        (.ok (m.state.opcode.withOperation operation))) ∨
    (∃ f, m.state.stepFailure? = some (.fault f) ∧
      m.tick = m.faultTick m.state.tickTimers m.state.fetch.toOption f) ∨
    ∃ length, m.state.Overflows length ∧
      m.tick = m.refuse (.range (.operand .divisor length)) := by
  rcases m.state.steps_or_stepFailure? with ⟨operation, t, hs⟩ | ⟨e, he⟩
  · exact .inl ⟨operation, t, hs, tick_of_steps hs⟩
  · rcases State.fault_or_overflows he with ⟨f, rfl⟩ | ⟨length, hoverflows, -⟩
    · exact .inr (.inl ⟨f, he, tick_of_step_error he⟩)
    · exact .inr (.inr ⟨length, hoverflows, tick_of_overflows hoverflows⟩)

theorem exists_steps_of_tick {m : Machine g capacity} {i : Instruction}
    (h : m.tick.result = .ok i) :
    ∃ operation, m.state.Steps operation m.tick.machine.state ∧
      i = m.state.opcode.withOperation operation := by
  rcases m.tick_cases with ⟨operation, t, hs, htick⟩ | ⟨f, -, htick⟩ | ⟨length, -, htick⟩
  · rw [htick] at h ⊢
    exact ⟨operation, hs, (Except.ok.inj h).symm⟩
  · rw [htick] at h
    cases h
  · rw [htick] at h
    cases h

/-- **Faults are atomic.** A tick succeeds, or it reports a fault of one of four kinds that tells
where it was met, and has let the timers count and done nothing else. Only on a screen with a side
of `2 ^ 31` pixels or more there is a third way: a tick that comes to a sprite is refused because of
the length of that side, and the machine stays as it is. -/
theorem tick_fault_atomic (m : Machine g capacity) :
    (∃ i, m.tick.result = .ok i) ∨
    (∃ f : Fault,
      m.tick.result = .error (.fault f) ∧
      f.kind ∈ [FaultKind.unknownOpcode, .stackOverflow, .stackUnderflow, .memoryAccess] ∧
      m.tick.machine.state = m.state.tickTimers ∧
      m.state.tickTimers = { m.state with
        delayTimer := m.state.tickTimers.delayTimer
        soundTimer := m.state.tickTimers.soundTimer } ∧
      m.tick.machine.seed = m.seed ∧
      f.pc = some (m.state.pc.toNat : Int) ∧
      f.opcode = match m.state.fetch with
        | .ok _ => some (256 * (m.state.memory.read m.state.pc.toNat).toNat +
            (m.state.memory.read (m.state.pc.toNat + 1)).toNat : Int)
        | .error _ => none) ∨
    ∃ length : Nat, 0x80000000 ≤ length ∧ (length = g.width ∨ length = g.height) ∧
      m.state.opcode.operation? = some .draw ∧
      m.tick = m.refuse (.range (.operand .divisor length)) := by
  rcases m.tick_cases with ⟨operation, t, -, htick⟩ | ⟨f, hf, htick⟩ | ⟨length, hlength, htick⟩
  · left
    rw [htick]
    exact ⟨_, rfl⟩
  · right
    left
    obtain ⟨hkind, hpc, -⟩ := State.stepFailure?_spec hf
    rw [htick]
    refine ⟨_, rfl, hkind, rfl, rfl, rfl, ?_, State.opcode_located_of_stepFailure? hf _⟩
    rw [Fault.located, hpc]
    rfl
  · right
    right
    obtain ⟨hle, hside⟩ := Geometry.le_of_oversize? hlength.oversize?_eq
    exact ⟨length, hle, hside, hlength.operation?_opcode, htick⟩

/-- The make of a machine with a single row of `2 ^ 31` pixels. -/
def longRow : Config where
  geometry := { rowBytes := 0x10000000, height := 1
                rowBytes_pos := by decide, height_pos := by decide }
  capacity := defaultStackSize
  seed := 0

theorem overflows_longRow {logger : Logger} {m : Machine longRow.geometry longRow.capacity}
    (hm : m = ((new longRow logger).loadRom [0xD0, 0x01]).machine) :
    m.state.Overflows 0x80000000 := by
  have hstate : m.state = { State.initial longRow.geometry longRow.capacity (Key.ofSeed 0) with
      memory := Memory.initial.write programStart [0xD0, 0x01] } := by
    rw [hm]
    rfl
  rw [hstate]
  exact ⟨by decide +kernel, by decide +kernel, by decide +kernel, by decide +kernel⟩

/-- A machine with a single row of `2 ^ 31` pixels can be made, and its first tick at a sprite of a
single byte fails without being at fault. -/
theorem tick_refused_on_long_row :
    Config.check 0x80000000 1 0 defaultStackSize = .ok longRow ∧
    let m := ((new longRow (.plain .info)).loadRom [0xD0, 0x01]).machine
    m.tick.result = .error (.range (.operand .divisor 0x80000000)) ∧
      ∀ f, m.tick.result ≠ .error (.fault f) := by
  refine ⟨rfl, ?_⟩
  intro m
  have hresult : m.tick.result = .error (.range (.operand .divisor 0x80000000)) := by
    rw [tick_of_overflows (overflows_longRow (m := m) rfl)]
    rfl
  refine ⟨hresult, fun f hf ↦ ?_⟩
  rw [hresult] at hf
  cases hf

end Machine

end ChipEight
