import ChipEight.Proofs.Retries
import ChipEight.Proofs.SideBySide

/-!
# Waiting for a key

A machine that has come to `FX0A` with no key down waits: every tick succeeds, executes the same
instruction once more, and lets the timers count. `State.waitingForKey` says whether a machine is in
this condition without a tick being made. That the two agree is proved in both directions, although
the one looks at a state and the other executes an instruction.

## What ends it

Neither ticks nor keys that are all up end the waiting, in any order and number. This is an
induction along a session in which a host does nothing else, `Command.Idles`. New keys with one of
them down end it at once, and the next tick takes the lowest of them. The program counter has to
move on then, which it has not done before, so that tick is the first that can fail.
-/

namespace ChipEight

variable {g : Geometry} {capacity : Nat}

/-! ## The lowest key -/

namespace State

variable {s : State g capacity}

theorem lowestKey?_eq_none_iff : s.lowestKey? = none ↔ ∀ k, s.keyDown k = false := by
  simp [lowestKey?]

theorem lowestKey?_eq_some {k : Fin keyCount} (hk : s.keyDown k = true)
    (hlow : ∀ j < k, s.keyDown j = false) : s.lowestKey? = some k := by
  rw [lowestKey?, List.find?_eq_some_iff_getElem]
  refine ⟨hk, k, by simp, by simp, fun j hj ↦ ?_⟩
  rw [List.getElem_finRange, hlow _ hj]
  rfl

/-! ## Waiting, told by the parts of a cycle -/

theorem waitingForKey_iff :
    s.waitingForKey = true ↔
      s.pc.toNat + 2 ≤ memorySize ∧ s.opcode.operation? = some .waitKey ∧ s.lowestKey? = none := by
  rw [waitingForKey, fetch_eq, ← Memory.outside?_eq_none_iff (by decide)]
  cases Memory.outside? s.pc.toNat 2 with
  | some c => simp
  | none =>
    simp only [Opcode.decode, true_and]
    cases s.opcode.operation? with
    | none => simp
    | some operation => simp [Opcode.withOperation]

theorem nextAddress_waitKey_of_none (h : s.lowestKey? = none) (o : Opcode) :
    s.nextAddress o .waitKey = s.pc.toNat := by
  rw [nextAddress_waitKey, h]
  rfl

theorem next_waitKey_of_none (h : s.lowestKey? = none) (o : Opcode) : s.next o .waitKey = s := by
  rw [next, nextAddress_waitKey_of_none h, effect, waitKey, h, BitVec.ofNat_toNat,
    BitVec.setWidth_eq]

/-- A cycle of a machine that waits comes to the instruction that waits, and only counts. -/
theorem steps_of_waitingForKey (h : s.waitingForKey = true) : s.Steps .waitKey s.tickTimers := by
  obtain ⟨hpc, hop, hkey⟩ := waitingForKey_iff.mp h
  exact
    { pc_le := hpc
      operation?_opcode := hop
      obstacle?_eq := rfl
      overflow?_eq := rfl
      nextAddress_le := (nextAddress_waitKey_of_none hkey s.opcode).symm ▸ hpc
      eq_next := (next_waitKey_of_none (s := s.tickTimers) hkey s.opcode).symm }

theorem Steps.eq_of_waitingForKey {t : State g capacity} {operation : Operation}
    (hs : s.Steps operation t) (h : s.waitingForKey = true) :
    operation = .waitKey ∧ t = s.tickTimers := by
  have hwait := steps_of_waitingForKey h
  obtain rfl := Option.some.inj (hs.operation?_opcode.symm.trans hwait.operation?_opcode)
  exact ⟨rfl, hs.eq_next.trans hwait.eq_next.symm⟩

theorem nextAddress_waitKey_of_some {k : Fin keyCount} (h : s.lowestKey? = some k)
    (hpc : s.pc.toNat ≤ 0xFFB) (o : Opcode) : s.nextAddress o .waitKey = s.pc.toNat + 2 := by
  rw [nextAddress_waitKey, h]
  exact Nat.mod_eq_of_lt (by omega)

theorem next_waitKey_of_some {k : Fin keyCount} (h : s.lowestKey? = some k)
    (hpc : s.pc.toNat ≤ 0xFFB) (o : Opcode) :
    s.next o .waitKey = { s.setRegister o.n2 (BitVec.ofNat 8 k) with pc := s.pc + 2 } := by
  rw [next, nextAddress_waitKey_of_some h hpc, effect, waitKey, h, BitVec.ofNat_add,
    BitVec.ofNat_toNat, BitVec.setWidth_eq]
  rfl

theorem steps_of_lowestKey? {k : Fin keyCount} (hop : s.opcode.operation? = some .waitKey)
    (hkey : s.lowestKey? = some k) (hpc : s.pc.toNat ≤ 0xFFB) :
    s.Steps .waitKey
      { s.tickTimers.setRegister s.opcode.n2 (BitVec.ofNat 8 k) with pc := s.pc + 2 } where
  pc_le := by
    rw [memorySize]
    omega
  operation?_opcode := hop
  obstacle?_eq := rfl
  overflow?_eq := rfl
  nextAddress_le := by
    rw [nextAddress_waitKey_of_some hkey hpc, memorySize]
    omega
  eq_next := (next_waitKey_of_some (s := s.tickTimers) hkey hpc s.opcode).symm

/-- An instruction that takes a key moves on, and in memory that is never to where it stands. -/
theorem lowestKey?_of_steps_waitKey {t : State g capacity} (hs : s.Steps .waitKey t)
    (hpc : t.pc = s.pc) : s.lowestKey? = none := by
  have hle := hs.pc_le
  rw [memorySize] at hle
  have hnext : s.nextAddress s.opcode .waitKey = s.pc.toNat := by
    rw [← hpc, hs.eq_next]
    exact (s.tickTimers.toNat_pc_next s.opcode .waitKey).symm
  cases hkey : s.lowestKey? with
  | none => rfl
  | some k =>
    have hmoved : s.nextAddress s.opcode .waitKey = (s.pc.toNat + 2) % 0x1000 := by
      rw [nextAddress_waitKey, hkey]
      rfl
    omega

/-! ## Idle sessions -/

theorem waitingForKey_countDown (s : State g capacity) (n : Nat) :
    (s.countDown n).waitingForKey = s.waitingForKey := rfl

theorem tickTimers_countDown (s : State g capacity) (n : Nat) :
    (s.countDown n).tickTimers = s.countDown (n + 1) := by
  simp only [countDown, tickTimers, Byte.toNat_ofNat_sub, Nat.sub_sub]

/-- That a state has come from another one by ticks that have executed its instruction again and
again and have only counted. -/
structure WaitedFrom (start s : State g capacity) (past : List (Tick g capacity)) : Prop where
  eq_countDown : s = start.countDown past.length
  results : ∀ r ∈ past, r.result = .ok (start.opcode.withOperation .waitKey)

namespace WaitedFrom

variable {start : State g capacity} {past : List (Tick g capacity)}

theorem waitingForKey (h : start.WaitedFrom s past) (hstart : start.waitingForKey = true) :
    s.waitingForKey = true := by
  rw [h.eq_countDown, waitingForKey_countDown, hstart]

theorem keptByTicks (hstart : start.waitingForKey = true) :
    KeptByTicks fun s past ↦ start.WaitedFrom s past where
  okTick h hs := by
    obtain ⟨rfl, rfl⟩ := hs.eq_of_waitingForKey (h.waitingForKey hstart)
    constructor
    · rw [List.length_append, h.eq_countDown, tickTimers_countDown]
      rfl
    · refine List.forall_mem_append.mpr ⟨h.results, List.forall_mem_singleton.mpr ?_⟩
      rw [h.eq_countDown]
      rfl
  errorTick h hf := by
    have hs := steps_of_waitingForKey (h.waitingForKey hstart)
    rw [hs.stepFailure?_eq_none] at hf
    cases hf

end WaitedFrom

end State

/-- Whether a command is not meant to change anything for a machine that waits: it makes ticks, sets
a level, or comes with keys that are all up. -/
def Command.Idles : Command → Prop
  | .tick | .run _ _ | .setLevel _ => True
  | .updateKeys keys => ∀ down ∈ keys, down = false
  | .loadRom _ | .loadRomFile _ _ | .reset => False

namespace Machine

variable {m : Machine g capacity} {start : State g capacity} {past : List (Tick g capacity)}

theorem state_updateKeys_of_released (h : m.waitingForKey = true) {keys : List Bool}
    (hkeys : ∀ down ∈ keys, down = false) : (m.updateKeys keys).machine.state = m.state := by
  rw [state_updateKeys]
  split
  · next hlength =>
    have hreleased := State.lowestKey?_eq_none_iff.mp (State.waitingForKey_iff.mp h).2.2
    have hsame : (⟨keys.toArray, by simpa using hlength⟩ : Keys) = m.state.keys :=
      Vector.ext fun i hi ↦ (hkeys _ (List.getElem_mem _)).trans (hreleased ⟨i, hi⟩).symm
    exact congrArg (fun keys : Keys ↦ { m.state with keys }) hsame
  · rfl

theorem obey_waited (hstart : start.waitingForKey = true) {c : Command} (hc : c.Idles)
    (h : start.WaitedFrom m.state past) :
    start.WaitedFrom (m.obey c).machine.state (m.remember past c) := by
  cases c with
  | tick => exact tick_kept (State.WaitedFrom.keptByTicks hstart) h
  | run count progress => exact run_kept (State.WaitedFrom.keptByTicks hstart) count progress h
  | updateKeys keys =>
    show start.WaitedFrom (m.updateKeys keys).machine.state past
    rwa [state_updateKeys_of_released (h.waitingForKey hstart) hc]
  | setLevel level => exact h
  | loadRom | loadRomFile | reset => exact absurd hc id

theorem after_waited (hstart : start.waitingForKey = true) {commands : List Command}
    (hidle : ∀ c ∈ commands, c.Idles) (h : start.WaitedFrom m.state past) :
    start.WaitedFrom (m.after commands).state (m.history past commands) := by
  induction commands generalizing m past with
  | nil => exact h
  | cons c commands ih =>
    obtain ⟨hc, hrest⟩ := List.forall_mem_cons.mp hidle
    exact ih hrest (obey_waited hstart hc h)

theorem ticks_of_waitingForKey (n : Nat) (h : m.waitingForKey = true) :
    (m.outcomes (List.replicate n .tick)).map Outcome.result =
        List.replicate n (.ok (.executed (m.state.opcode.withOperation .waitKey))) ∧
      (m.after (List.replicate n .tick)).state = m.state.countDown n := by
  refine ticks_of_repeating (fun n s ↦ s.countDown n)
    (r := .ok (m.state.opcode.withOperation .waitKey))
    (P := fun m' ↦ m'.waitingForKey = true ∧ m'.state.opcode = m.state.opcode)
    State.countDown_zero (fun m' ⟨hwait, hopcode⟩ ↦ ?_) n ⟨h, rfl⟩
  rw [tick_of_steps (State.steps_of_waitingForKey hwait), hopcode]
  exact ⟨rfl, ⟨hwait, hopcode⟩, State.countDown_tickTimers m'.state⟩

theorem waitingForKey_iff_tick :
    m.waitingForKey = true ↔ ∃ i, m.tick.result = .ok i ∧ i.operation = .waitKey ∧
      m.tick.machine.state.pc = m.state.pc := by
  constructor
  · intro h
    rw [tick_of_steps (State.steps_of_waitingForKey h)]
    exact ⟨_, rfl, rfl, rfl⟩
  · rintro ⟨i, hresult, hi, hpc⟩
    obtain ⟨operation, hs, rfl⟩ := exists_steps_of_tick hresult
    obtain rfl : operation = .waitKey := hi
    exact State.waitingForKey_iff.mpr
      ⟨hs.pc_le, hs.operation?_opcode, State.lowestKey?_of_steps_waitKey hs hpc⟩

/-! ## A key -/

theorem updateKeys_of_length (m : Machine g capacity) {keys : List Bool}
    (h : keys.length = keyCount) :
    m.updateKeys keys =
      { machine := { m with state := { m.state with keys := ⟨keys.toArray, by simpa using h⟩ } }
        result := .ok () } := by
  rw [updateKeys, State.updateKeys, dif_pos h]

theorem lowestKey?_updateKeys (m : Machine g capacity) {keys : List Bool} {k : Fin keyCount}
    (hlength : keys.length = keyCount) (hk : keys[(k : Nat)]? = some true)
    (hlow : ∀ j < (k : Nat), keys[j]? = some false) :
    (m.updateKeys keys).machine.state.lowestKey? = some k := by
  rw [updateKeys_of_length m hlength]
  refine State.lowestKey?_eq_some ((List.getElem_eq_iff ..).mpr hk) fun j hj ↦ ?_
  exact (List.getElem_eq_iff ..).mpr (hlow j hj)

theorem tick_of_lowestKey? {k : Fin keyCount} (hop : m.state.opcode.operation? = some .waitKey)
    (hkey : m.state.lowestKey? = some k) (hpc : m.state.pc.toNat ≤ 0xFFB) :
    m.tick.result = .ok (m.state.opcode.withOperation .waitKey) ∧
      m.tick.machine.state =
        { m.state with
          registers := m.state.registers.set m.state.opcode.n2 (BitVec.ofNat 8 k)
          pc := m.state.pc + 2
          delayTimer := BitVec.ofNat 8 (m.state.delayTimer.toNat - 1)
          soundTimer := BitVec.ofNat 8 (m.state.soundTimer.toNat - 1) } := by
  rw [tick_of_steps (State.steps_of_lowestKey? hop hkey hpc)]
  exact ⟨rfl, rfl⟩

/-- **Waiting for a key.** A machine waits exactly if its next tick succeeds at an instruction that
waits and does not move on. As long as a host makes ticks and gives keys that are all up, every tick
executes this instruction and nothing but the timers changes. Keys one of which is down end the
waiting, and the next tick takes the lowest of them. The states of any other number of keys than
sixteen are refused, and the machine stays as it is. -/
theorem key_wait_law (m : Machine g capacity) :
    (m.waitingForKey = true ↔ ∃ i, m.tick.result = .ok i ∧ i.operation = .waitKey ∧
      m.tick.machine.state.pc = m.state.pc) ∧
    (m.waitingForKey = true → ∃ i, m.state.opcode.decode = .ok i ∧ i.operation = .waitKey ∧
      (∀ n, (m.outcomes (List.replicate n .tick)).map Outcome.result =
          List.replicate n (.ok (.executed i)) ∧
        (m.after (List.replicate n .tick)).state =
          { m.state with
            delayTimer := BitVec.ofNat 8 (m.state.delayTimer.toNat - n)
            soundTimer := BitVec.ofNat 8 (m.state.soundTimer.toNat - n) }) ∧
      (∀ commands : List Command, (∀ c ∈ commands, c.Idles) →
        (m.after commands).waitingForKey = true ∧
        (m.after commands).state = m.state.countDown (m.history [] commands).length ∧
        ∀ r ∈ m.history [] commands, r.result = .ok i) ∧
      ∀ (keys : List Bool) (k : Fin keyCount), keys.length = keyCount →
        keys[(k : Nat)]? = some true → (∀ j < (k : Nat), keys[j]? = some false) →
        (m.updateKeys keys).result = .ok () ∧
        (m.updateKeys keys).machine.waitingForKey = false ∧
        ∃ pressed : Keys, pressed.toList = keys ∧
          (m.updateKeys keys).machine.state = { m.state with keys := pressed } ∧
          (m.state.pc.toNat ≤ 0xFFB →
            (m.updateKeys keys).machine.tick.result = .ok i ∧
            (m.updateKeys keys).machine.tick.machine.state =
              { m.state with
                keys := pressed
                registers := m.state.registers.set i.x (BitVec.ofNat 8 k)
                pc := m.state.pc + 2
                delayTimer := BitVec.ofNat 8 (m.state.delayTimer.toNat - 1)
                soundTimer := BitVec.ofNat 8 (m.state.soundTimer.toNat - 1) })) ∧
    ∀ keys : List Bool, keys.length ≠ keyCount →
      m.updateKeys keys = { machine := m, result := .error (.keyStates keys.length) } := by
  refine ⟨waitingForKey_iff_tick, fun h ↦ ⟨m.state.opcode.withOperation .waitKey, ?_, rfl,
    fun n ↦ ticks_of_waitingForKey n h, fun commands hidle ↦ ?_,
    fun keys k hlength hk hlow ↦ ?_⟩, fun keys hlength ↦ ?_⟩
  · rw [Opcode.decode, (State.waitingForKey_iff.mp h).2.1]
  · have hwaited : m.state.WaitedFrom (m.after commands).state (m.history [] commands) :=
      after_waited h hidle ⟨m.state.countDown_zero.symm, List.forall_mem_nil _⟩
    exact ⟨hwaited.waitingForKey h, hwaited.eq_countDown, hwaited.results⟩
  · have hkey := m.lowestKey?_updateKeys hlength hk hlow
    rw [updateKeys_of_length m hlength] at hkey ⊢
    refine ⟨rfl, Bool.eq_false_iff.mpr fun hwait ↦ ?_, _, rfl, rfl, fun hpc ↦ ?_⟩
    · rw [(State.waitingForKey_iff.mp hwait).2.2] at hkey
      cases hkey
    · -- the keys have no part in which instruction is met
      exact tick_of_lowestKey? (State.waitingForKey_iff.mp h).2.1 hkey hpc
  · rw [updateKeys, State.updateKeys, dif_neg hlength]
    rfl

/-- A machine that has come to `F30A` waits through five ticks, and when two keys are down the next
tick takes the lower one. -/
theorem key_wait_law_of_two_keys :
    let m := (new (.usual 0) (.plain .info)).after [.loadRom [0xF3, 0x0A]]
    let keys := [false, false, true, false, false, true] ++ List.replicate 10 false
    m.waitingForKey = true ∧ (m.after (List.replicate 5 .tick)).waitingForKey = true ∧
      ∃ pressed : Keys, pressed.toList = keys ∧
        (m.updateKeys keys).machine.tick.machine.state =
          { m.state with
            keys := pressed
            registers := m.state.registers.set 3 2
            pc := 0x202
            delayTimer := 0
            soundTimer := 0 } := by
  intro m keys
  obtain ⟨hwait, hdecode, hpc, hdelay, hsound⟩ :
      m.waitingForKey = true ∧
      m.state.opcode.decode = .ok ((Opcode.mk 0xF30A).withOperation .waitKey) ∧
      m.state.pc = 0x200 ∧ m.state.delayTimer = 0 ∧ m.state.soundTimer = 0 := by decide +kernel
  obtain ⟨i, hi, -, -, hidle, hdown⟩ := m.key_wait_law.2.1 hwait
  obtain rfl := Except.ok.inj (hdecode.symm.trans hi)
  have hticks : ∀ c ∈ List.replicate 5 Command.tick, c.Idles := fun c hc ↦ by
    rw [List.eq_of_mem_replicate hc]
    trivial
  obtain ⟨-, -, pressed, hpressed, -, htick⟩ := hdown keys 2 rfl rfl (by decide)
  obtain ⟨-, hstate⟩ := htick (by rw [hpc]; decide)
  rw [hpc, hdelay, hsound] at hstate
  exact ⟨hwait, (hidle _ hticks).1, pressed, hpressed, hstate⟩

end Machine

end ChipEight
