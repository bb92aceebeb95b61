import ChipEight.Proofs.KeyWait
import ChipEight.Proofs.ReachableStates

/-!
# Where execution goes on

Instructions move the program counter themselves, and they do it within twelve bits, while memory
ends a byte before twelve bits do. This file compares where execution goes on with
`State.target`, where it would go on if addresses had no end.

## At the end of memory

What is checked after an instruction is the address that has come out of the twelve bits. In a
session the program counter is at most `0xFFD`, so that going on by one instruction leads at most to
`0xFFF`, and the check sees an address that has not been cut. The same is true of a return. So
whatever leads beyond the last instruction word is found out, with two exceptions. A jump with an
offset is meant to stay within the address space and takes its sum there. And the instruction that
is skipped may stand at `0xFFE` or `0xFFF`, and the two bytes after that make zero or one, where an
instruction word has room. These skips are `State.WrapsAround`.
-/

namespace ChipEight

variable {g : Geometry} {capacity : Nat}

/-- Whether an operation sets the program counter, rather than moving it on. -/
def Operation.isJump : Operation → Bool
  | .jump | .call | .ret | .jumpOffset => true
  | _ => false

namespace State

variable {s t : State g capacity} {o : Opcode} {operation : Operation}

/-- Where an operation would go on if addresses had no end. -/
def target (s : State g capacity) (o : Opcode) : Operation → Nat
  | .jump | .call => o.address
  | .jumpOffset => o.address + (s.registers.get ⟨0, registerCount_pos⟩).toNat
  | .ret => (s.stack.items.getLast?.getD 0).toNat + 2
  | .waitKey => if true ∈ s.keys then s.pc.toNat + 2 else s.pc.toNat
  | operation => s.pc.toNat + if s.skips o operation then 4 else 2

/-- Whether an operation skips the instruction after it, and does so from a place with no more than
four bytes of address space left. -/
def WrapsAround (s : State g capacity) (o : Opcode) (operation : Operation) : Prop :=
  s.skips o operation = true ∧ 0xFFC ≤ s.pc.toNat

instance : Decidable (s.WrapsAround o operation) := inferInstanceAs (Decidable (_ ∧ _))

/-! ## How far an instruction moves on -/

theorem target_waitKey (s : State g capacity) (o : Opcode) :
    s.target o .waitKey = if s.lowestKey?.isSome then s.pc.toNat + 2 else s.pc.toNat := by
  simp only [target, lowestKey?_isSome_iff]

theorem target_of_skips (h : s.skips o operation = true) :
    s.target o operation = s.pc.toNat + 4 := by
  cases operation with
  | skipEqualConst | skipUnequalConst | skipEqual | skipUnequal | skipPressed | skipReleased =>
    simp only [target, h, if_true]
  | _ => cases h

/-- An operation that is no jump stays, moves on by one instruction or skips one. -/
theorem target_cases (hjump : operation.isJump = false) :
    (operation = .waitKey ∧ s.lowestKey? = none ∧ s.target o operation = s.pc.toNat) ∨
    (s.skips o operation = false ∧ s.target o operation = s.pc.toNat + 2) ∨
    (s.skips o operation = true ∧ s.target o operation = s.pc.toNat + 4) := by
  cases hskips : s.skips o operation with
  | true => exact .inr (.inr ⟨rfl, target_of_skips hskips⟩)
  | false =>
    cases operation with
    | jump | call | ret | jumpOffset => cases hjump
    | waitKey =>
      cases hkey : s.lowestKey? with
      | none => exact .inl ⟨rfl, rfl, by simp [target_waitKey, hkey]⟩
      | some k => exact .inr (.inl ⟨rfl, by simp [target_waitKey, hkey]⟩)
    | _ => exact .inr (.inl ⟨rfl, by simp [target, hskips]⟩)

/-! ## Within the address space -/

/-- In a well-formed state the next address is where the operation would go on, cut to twelve
bits. -/
theorem WellFormed.nextAddress_eq (h : s.WellFormed) (o : Opcode) (operation : Operation) :
    s.nextAddress o operation = s.target o operation % 0x1000 := by
  have hpc := h.pc_le
  have ha := o.address_lt
  cases operation with
  | jump | call => exact (Nat.mod_eq_of_lt ha).symm
  | waitKey =>
    cases hkey : s.lowestKey? with
    | none =>
      rw [nextAddress_waitKey, target_waitKey, hkey]
      show s.pc.toNat = s.pc.toNat % 0x1000
      omega
    | some k =>
      rw [nextAddress_waitKey, target_waitKey, hkey]
      rfl
  | _ => rfl

/-- Nothing but a jump with an offset and a skip in the last two places leads out of the address
space. -/
theorem WellFormed.target_lt (h : s.WellFormed) (hobstacle : s.obstacle? o operation = none)
    (hoffset : operation ≠ .jumpOffset) (hwraps : ¬s.WrapsAround o operation) :
    s.target o operation < 0x1000 := by
  have hpc := h.pc_le
  cases hjump : operation.isJump with
  | true =>
    cases operation with
    | jump | call => exact o.address_lt
    | jumpOffset => exact absurd rfl hoffset
    | ret =>
      -- a call was made from the place that the return finds on the stack
      have hdepth : s.stack.depth ≠ 0 := fun hd ↦ by simp [obstacle?, hd] at hobstacle
      have htop : s.stack.top ∈ s.stack.items := by
        rw [CallStack.items_popped hdepth]
        exact List.mem_append_right _ (List.mem_singleton_self _)
      have hle := h.items_le _ htop
      rw [target, ← CallStack.top_eq]
      omega
    | _ => cases hjump
  | false =>
    obtain ⟨-, -, htarget⟩ | ⟨-, htarget⟩ | ⟨hskips, htarget⟩ := s.target_cases (o := o) hjump
    · omega
    · omega
    · have hlt : s.pc.toNat < 0xFFC := Nat.lt_of_not_le fun hle ↦ hwraps ⟨hskips, hle⟩
      omega

theorem WellFormed.nextAddress_eq_target (h : s.WellFormed)
    (hobstacle : s.obstacle? o operation = none) (hoffset : operation ≠ .jumpOffset)
    (hwraps : ¬s.WrapsAround o operation) : s.nextAddress o operation = s.target o operation := by
  rw [h.nextAddress_eq, Nat.mod_eq_of_lt (h.target_lt hobstacle hoffset hwraps)]

/-- A skip in the last two places comes out in the first two. -/
theorem WellFormed.nextAddress_of_wrapsAround (h : s.WellFormed)
    (hwraps : s.WrapsAround o operation) :
    s.nextAddress o operation + 0x1000 = s.pc.toNat + 4 := by
  have hpc := h.pc_le
  have hplace := hwraps.2
  rw [h.nextAddress_eq, target_of_skips hwraps.1]
  omega

/-! ## What goes wrong at the end of memory -/

theorem failure?_of_nextAddress (hobstacle : s.obstacle? o operation = none)
    (hoverflow : g.overflow? operation = none)
    (hnext : memorySize < s.nextAddress o operation + 2) :
    s.failure? o operation = some (.fault (.memoryAccess (s.nextAddress o operation) 2)) := by
  have houtside : Memory.outside? (s.nextAddress o operation) 2 =
      some (.memoryAccess (s.nextAddress o operation) 2) :=
    Memory.outside?_eq_some_iff.mpr ⟨⟨by decide, hnext⟩, rfl⟩
  simp only [failure?, hobstacle, hoverflow, houtside]
  rfl

theorem WellFormed.failure?_of_target (h : s.WellFormed) (hoffset : operation ≠ .jumpOffset)
    (hwraps : ¬s.WrapsAround o operation) (htarget : memorySize < s.target o operation + 2)
    (hoverflow : s.obstacle? o operation = none → g.overflow? operation = none) :
    s.failure? o operation = some (.fault
      { cause := (s.obstacle? o operation).getD (.memoryAccess (s.target o operation) 2) }) := by
  cases hobstacle : s.obstacle? o operation with
  | some c => simp only [failure?, hobstacle, Option.getD_some]
  | none =>
    have hnext := h.nextAddress_eq_target hobstacle hoffset hwraps
    rw [failure?_of_nextAddress hobstacle (hoverflow hobstacle) (hnext ▸ htarget), hnext]
    rfl

theorem WellFormed.steps_of_wrapsAround (h : s.WellFormed)
    (hoperation : s.opcode.operation? = some operation)
    (hwraps : s.WrapsAround s.opcode operation) :
    s.Steps operation (s.tickTimers.next s.opcode operation) where
  pc_le := fetch_eq_ok_iff.mp h.fetch_eq
  operation?_opcode := hoperation
  obstacle?_eq := by
    obtain ⟨hskips, -⟩ := hwraps
    cases operation with
    -- skips ask nothing of memory or of the stack
    | skipEqualConst | skipUnequalConst | skipEqual | skipUnequal | skipPressed | skipReleased =>
      rfl
    | _ => cases hskips
  overflow?_eq := by
    apply Geometry.overflow?_of_ne
    rintro rfl
    cases hwraps.1
  nextAddress_le := by
    have hnext := h.nextAddress_of_wrapsAround hwraps
    have hpc := h.pc_le
    rw [memorySize]
    omega
  eq_next := rfl

/-! ## A cycle -/

/-- Where a cycle goes on does not depend on the timers that it has let count. -/
theorem Steps.toNat_pc (hs : s.Steps operation t) :
    t.pc.toNat = s.nextAddress s.opcode operation := by
  rw [hs.eq_next, toNat_pc_next]
  exact s.nextAddress_besides s.rng s.screen s.tickTimers.delayTimer s.tickTimers.soundTimer ..

theorem Steps.toNat_pc_of_not_wrapsAround (hs : s.Steps operation t) (h : s.WellFormed)
    (hoffset : operation ≠ .jumpOffset) (hwraps : ¬s.WrapsAround s.opcode operation) :
    t.pc.toNat = s.target s.opcode operation := by
  rw [hs.toNat_pc, h.nextAddress_eq_target hs.obstacle?_eq hoffset hwraps]

theorem Steps.pc_cases (hs : s.Steps operation t) (h : s.WellFormed)
    (hjump : operation.isJump = false) :
    (t.pc = s.pc ∧ operation = .waitKey ∧ ∀ k : Fin keyCount, s.keys.get k = false) ∨
    (t.pc.toNat = s.pc.toNat + 2 ∧ s.skips s.opcode operation = false) ∨
    (t.pc.toNat = s.pc.toNat + 4 ∧ s.skips s.opcode operation = true ∧ s.pc.toNat < 0xFFC) ∨
    (t.pc.toNat + 0x1000 = s.pc.toNat + 4 ∧ s.WrapsAround s.opcode operation) := by
  by_cases hwraps : s.WrapsAround s.opcode operation
  · have hpc := hs.toNat_pc
    have hnext := h.nextAddress_of_wrapsAround hwraps
    exact .inr (.inr (.inr ⟨by omega, hwraps⟩))
  · have hoffset : operation ≠ .jumpOffset := by
      rintro rfl
      cases hjump
    have hpc := hs.toNat_pc_of_not_wrapsAround h hoffset hwraps
    obtain ⟨rfl, hkey, htarget⟩ | ⟨hskips, htarget⟩ | ⟨hskips, htarget⟩ :=
      s.target_cases (o := s.opcode) hjump
    · exact .inl ⟨BitVec.toNat_inj.mp (hpc.trans htarget), rfl, lowestKey?_eq_none_iff.mp hkey⟩
    · exact .inr (.inl ⟨hpc.trans htarget, hskips⟩)
    · refine .inr (.inr (.inl ⟨hpc.trans htarget, hskips, Nat.lt_of_not_le fun hle ↦ ?_⟩))
      exact hwraps ⟨hskips, hle⟩

end State

/-! ## Sessions -/

namespace Machine

variable {m : Machine g capacity}

theorem tick_of_failure? {operation : Operation} {f₀ : Fault} (h : m.state.WellFormed)
    (hoperation : m.state.opcode.operation? = some operation)
    (hfailure : m.state.failure? m.state.opcode operation = some (.fault f₀)) :
    ∃ f, m.tick.result = .error (.fault f) ∧ f.cause = f₀.cause ∧
      m.tick.machine.state = m.state.tickTimers := by
  have hpc := State.fetch_eq_ok_iff.mp h.fetch_eq
  have hstep : m.state.stepFailure? = some (.fault f₀) := by
    rw [State.stepFailure?, (Memory.outside?_eq_none_iff (by decide)).mpr hpc]
    simp only [hoperation, hfailure]
  obtain ⟨hresult, hstate⟩ := tick_of_stepFailure? hstep
  exact ⟨_, hresult, Fault.cause_located .., hstate⟩

theorem tick_of_target {operation : Operation} (h : m.state.WellFormed)
    (hoperation : m.state.opcode.operation? = some operation) (hoffset : operation ≠ .jumpOffset)
    (hwraps : ¬m.state.WrapsAround m.state.opcode operation)
    (htarget : memorySize < m.state.target m.state.opcode operation + 2) :
    (∃ f, m.tick.result = .error (.fault f) ∧
      f.cause = (m.state.obstacle? m.state.opcode operation).getD
        (.memoryAccess (m.state.target m.state.opcode operation) 2) ∧
      m.tick.machine.state = m.state.tickTimers) ∨
    ∃ length, m.state.Overflows length := by
  by_cases hoverflow : m.state.obstacle? m.state.opcode operation = none →
      g.overflow? operation = none
  · have hfailure := h.failure?_of_target hoffset hwraps htarget hoverflow
    exact .inl (tick_of_failure? h hoperation hfailure)
  · right
    obtain ⟨hobstacle, hsome⟩ := Classical.not_imp.mp hoverflow
    obtain ⟨e, he⟩ := Option.ne_none_iff_exists'.mp hsome
    obtain ⟨rfl, length, hlength, -⟩ := Geometry.overflow?_eq_some_iff.mp he
    have hpc := State.fetch_eq_ok_iff.mp h.fetch_eq
    exact ⟨length, hpc, hoperation, Memory.outside?_eq_none.mp hobstacle, hlength⟩

theorem tick_of_jumpOffset {a : Nat} (h : m.state.WellFormed)
    (hoperation : m.state.opcode.operation? = some .jumpOffset)
    (ha : a = m.state.target m.state.opcode .jumpOffset % 0x1000) :
    (a + 2 ≤ memorySize → m.tick.result = .ok (m.state.opcode.withOperation .jumpOffset) ∧
      m.tick.machine.state.pc.toNat = a) ∧
    (memorySize < a + 2 → ∃ f, m.tick.result = .error (.fault f) ∧
      f.cause = .memoryAccess a 2 ∧ m.tick.machine.state = m.state.tickTimers) := by
  have hobstacle : m.state.obstacle? m.state.opcode .jumpOffset = none := Memory.outside?_zero _
  have hnext : m.state.nextAddress m.state.opcode .jumpOffset = a := ha.symm
  constructor
  · intro hle
    have hs : m.state.Steps .jumpOffset (m.state.tickTimers.next m.state.opcode .jumpOffset) :=
      ⟨State.fetch_eq_ok_iff.mp h.fetch_eq, hoperation, hobstacle, rfl, hnext ▸ hle, rfl⟩
    rw [← hnext, ← hs.toNat_pc, tick_of_steps hs]
    exact ⟨rfl, rfl⟩
  · intro hlt
    have hfailure := State.failure?_of_nextAddress (g := g) hobstacle rfl (hnext ▸ hlt)
    rw [hnext] at hfailure
    exact tick_of_failure? h hoperation hfailure

/-- **Where execution goes on.** In every session, an instruction that is no jump leaves the program
counter as it was if it waits and no key is down, and otherwise moves it on by two, or by four if it
skips. An instruction that would go on beyond the last instruction word fails as an access outside
memory does, unless a call or a return finds the stack full or empty, and nothing but the timers has
changed; on an oversized screen a sprite is refused before. A jump with an offset goes on at its sum
within the address space, or fails in the same way if no instruction word has room there. A skip in
the last two places succeeds and goes on in the first two. -/
theorem program_flow {c : Config} {logger : Logger} {commands : List Command}
    {m : Machine c.geometry c.capacity} (hm : m = (new c logger).after commands) :
    (∀ i, m.tick.result = .ok i → i.operation.isJump = false →
      (m.tick.machine.state.pc = m.state.pc ∧
        i.operation = .waitKey ∧ ∀ k : Fin keyCount, m.state.keys.get k = false) ∨
      (m.tick.machine.state.pc.toNat = m.state.pc.toNat + 2 ∧
        m.state.skips m.state.opcode i.operation = false) ∨
      (m.tick.machine.state.pc.toNat = m.state.pc.toNat + 4 ∧
        m.state.skips m.state.opcode i.operation = true ∧ m.state.pc.toNat < 0xFFC) ∨
      (m.tick.machine.state.pc.toNat + 0x1000 = m.state.pc.toNat + 4 ∧
        m.state.WrapsAround m.state.opcode i.operation)) ∧
    ∀ o i, m.state.fetch = .ok o → o.decode = .ok i →
      (i.operation ≠ .jumpOffset → ¬m.state.WrapsAround o i.operation →
        memorySize < m.state.target o i.operation + 2 →
        (∃ f, m.tick.result = .error (.fault f) ∧
          f.cause = (m.state.obstacle? o i.operation).getD
            (.memoryAccess (m.state.target o i.operation) 2) ∧
          (i.operation ≠ .call → i.operation ≠ .ret → f.kind = .memoryAccess) ∧
          m.tick.machine.state = m.state.tickTimers) ∨
        ∃ length : Nat, i.operation = .draw ∧ 0x80000000 ≤ length ∧
          (length = c.geometry.width ∨ length = c.geometry.height) ∧
          m.tick = m.refuse (.range (.operand .divisor length))) ∧
      (i.operation = .jumpOffset →
        (m.state.target o .jumpOffset % 0x1000 + 2 ≤ memorySize → m.tick.result = .ok i ∧
          m.tick.machine.state.pc.toNat = m.state.target o .jumpOffset % 0x1000) ∧
        (memorySize < m.state.target o .jumpOffset % 0x1000 + 2 →
          ∃ f, m.tick.result = .error (.fault f) ∧
            f.cause = .memoryAccess (m.state.target o .jumpOffset % 0x1000 : Nat) 2 ∧
            m.tick.machine.state = m.state.tickTimers)) ∧
      (m.state.WrapsAround o i.operation →
        m.tick.result = .ok i ∧
        m.tick.machine.state.pc.toNat + 0x1000 = m.state.pc.toNat + 4) := by
  have hwf : m.state.WellFormed :=
    hm ▸ wellFormed_after (m := new c logger) (State.wellFormed_initial _) commands
  refine ⟨?_, ?_⟩
  · intro i hresult hjump
    obtain ⟨operation, hs, rfl⟩ := exists_steps_of_tick hresult
    exact hs.pc_cases hwf hjump
  intro o i hfetch hdecode
  obtain rfl := State.eq_opcode_of_fetch hfetch
  obtain ⟨hoperation, hi⟩ := Opcode.operation?_of_decode hdecode
  refine ⟨?_, ?_, ?_⟩
  · intro hoffset hwraps htarget
    obtain ⟨f, hresult, hcause, hstate⟩ | ⟨length, hlength⟩ :=
      tick_of_target hwf hoperation hoffset hwraps htarget
    · refine .inl ⟨f, hresult, hcause, fun hcall hret ↦ ?_, hstate⟩
      -- calls and returns aside, an operand can only be wrong by lying outside memory
      rw [Fault.kind, hcause]
      cases hobstacle : m.state.obstacle? m.state.opcode i.operation with
      | some c => exact State.kind_of_obstacle?_of_ne hcall hret hobstacle
      | none => rfl
    · obtain ⟨hle, hside⟩ := Geometry.le_of_oversize? hlength.oversize?_eq
      have hdraw := Option.some.inj (hoperation.symm.trans hlength.operation?_opcode)
      exact .inr ⟨length, hdraw, hle, hside, tick_of_overflows hlength⟩
  · intro hoffset
    rw [hoffset] at hoperation hi
    rw [hi]
    exact tick_of_jumpOffset hwf hoperation rfl
  · intro hwraps
    have hs := hwf.steps_of_wrapsAround hoperation hwraps
    have hpc := hwf.nextAddress_of_wrapsAround hwraps
    rw [← hs.toNat_pc] at hpc
    rw [tick_of_steps hs, ← hi]
    exact ⟨rfl, hpc⟩

/-- A program that writes an instruction to `0xFFC`, the last place at an even address with room for
one, and goes there. With the byte `0x40` the instruction is a skip that is taken, with `0x30` one
that is not. -/
def lastPlace (b : Byte) : List Command :=
  [.loadRom [0x60, b, 0xAF, 0xFC, 0xF0, 0x55, 0x1F, 0xFC], .run 4 false]

theorem skips_lastPlace {m : Machine (Config.usual 0).geometry (Config.usual 0).capacity}
    (hm : m = (new (.usual 0) (.plain .info)).after (lastPlace 0x40)) :
    m.state.fetch = .ok ⟨0x4000⟩ ∧ m.state.pc.toNat = 0xFFC ∧
      m.state.skips ⟨0x4000⟩ .skipUnequalConst = true := by
  rw [hm]
  decide +kernel

/-- Both instructions in the last place: the one goes on at zero, the other one fails. -/
theorem program_flow_of_last_place :
    let m := (new (.usual 0) (.plain .info)).after (lastPlace 0x40)
    let m' := (new (.usual 0) (.plain .info)).after (lastPlace 0x30)
    m.tick.result = .ok ((Opcode.mk 0x4000).withOperation .skipUnequalConst) ∧
      m.state.pc.toNat = 0xFFC ∧ m.tick.machine.state.pc.toNat = 0 ∧
      ∃ f, m'.tick.result = .error (.fault f) ∧ f.cause = .memoryAccess 0xFFE 2 := by
  intro m m'
  obtain ⟨hfetch, hpc, hskips⟩ := skips_lastPlace (m := m) rfl
  obtain ⟨hfetch', hpc', hstays⟩ : m'.state.fetch = .ok ⟨0x3000⟩ ∧ m'.state.pc.toNat = 0xFFC ∧
      m'.state.skips ⟨0x3000⟩ .skipEqualConst = false := by decide +kernel
  obtain ⟨hmoves, hflow⟩ := program_flow (m := m) rfl
  obtain ⟨-, hflow'⟩ := program_flow (m := m') rfl
  -- the programs have done their part
  clear_value m m'
  obtain ⟨hresult, -⟩ := (hflow _ _ hfetch rfl).2.2 ⟨hskips, Nat.le_of_eq hpc.symm⟩
  have hzero : m.tick.machine.state.pc.toNat = 0 := by
    obtain ⟨-, hwait, -⟩ | ⟨-, hnot⟩ | ⟨-, -, hlt⟩ | ⟨hnext, -⟩ := hmoves _ hresult rfl
    · cases hwait
    · rw [← State.eq_opcode_of_fetch hfetch] at hnot
      cases hskips.symm.trans hnot
    · omega
    · omega
  have htarget : m'.state.target ⟨0x3000⟩ .skipEqualConst = 0xFFE := by
    show m'.state.pc.toNat + (if m'.state.skips ⟨0x3000⟩ .skipEqualConst then 4 else 2) = _
    rw [hstays, hpc']
    rfl
  have hwraps : ¬m'.state.WrapsAround ⟨0x3000⟩ .skipEqualConst := fun h ↦ by
    cases hstays.symm.trans h.1
  obtain ⟨f, hfault, hcause, -⟩ | ⟨length, hdraw, -⟩ := (hflow' ⟨0x3000⟩ _ hfetch' rfl).1
    (by decide) hwraps (htarget ▸ by decide)
  · refine ⟨hresult, hpc, hzero, f, hfault, hcause.trans ?_⟩
    exact congrArg (fun a : Nat ↦ Cause.memoryAccess a 2) htarget
  · cases hdraw

/-- A skip in the last place goes on neither at the place of the instruction nor at the one behind it
nor at the one behind that. A jump with an offset that would go on at `0x1001` goes on at one. -/
theorem program_flow_wraps :
    let m := (new (.usual 0) (.plain .info)).after (lastPlace 0x40)
    let m' := (new (.usual 0) (.plain .info)).after [.loadRom [0x60, 0x02, 0xBF, 0xFF], .tick]
    (m.tick.result = .ok ((Opcode.mk 0x4000).withOperation .skipUnequalConst) ∧
      m.tick.machine.state.pc.toNat ∉
        [m.state.pc.toNat, m.state.pc.toNat + 2, m.state.pc.toNat + 4]) ∧
    (m'.state.registers.get ⟨0, registerCount_pos⟩).toNat = 2 ∧ m'.state.opcode.word = 0xBFFF ∧
      (m'.tick.result.map Instruction.operation).toOption = some .jumpOffset ∧
      m'.tick.machine.state.pc.toNat = 1 := by
  intro m m'
  refine ⟨?_, by decide +kernel⟩
  obtain ⟨hfetch, hpc, hskips⟩ := skips_lastPlace (m := m) rfl
  have hwf : m.state.WellFormed :=
    wellFormed_after (m := new (.usual 0) _) (State.wellFormed_initial _) (lastPlace 0x40)
  -- the session has done its part
  clear_value m
  have hopcode : m.state.opcode = ⟨0x4000⟩ := (State.eq_opcode_of_fetch hfetch).symm
  have hwraps : m.state.WrapsAround m.state.opcode .skipUnequalConst :=
    ⟨by rw [hopcode, hskips], Nat.le_of_eq hpc.symm⟩
  have hs := hwf.steps_of_wrapsAround (by rw [hopcode]; rfl) hwraps
  have hnext := hwf.nextAddress_of_wrapsAround hwraps
  rw [← hs.toNat_pc] at hnext
  rw [tick_of_steps hs, hopcode]
  refine ⟨rfl, ?_⟩
  show (m.state.tickTimers.next ⟨0x4000⟩ .skipUnequalConst).pc.toNat ∉ _
  rw [hopcode] at hnext
  simp only [List.mem_cons, List.not_mem_nil, or_false]
  omega

end Machine

end ChipEight
