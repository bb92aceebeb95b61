import ChipEight.Proofs.History

/-!
# The states that a machine reaches

A host may put any word into a program counter, but no session leads to most of them. This file
states what is true of every state that a machine reaches, as far as programs rely on it.

## The invariant

`State.WellFormed` is about the program counter, the index register and the call stack, and each of
its parts needs others. Execution ends with a check that leaves room for one instruction at the
program counter; a call saves it, so the same bound holds for what is on the stack. The index
register wraps at the end of the address space, one byte beyond the end of memory, so its bound is
weaker than that of an address.

Since an instruction stands at every program counter that is reached, fetching never fails in a
session, and a block outside memory is always one that an instruction has asked for.
-/

namespace ChipEight

variable {g : Geometry} {capacity : Nat}

/-- What is true of the program counter, the index register and the call stack in every state that a
machine reaches. -/
structure State.WellFormed (s : State g capacity) : Prop where
  /-- A whole instruction stands at the program counter. -/
  pc_le : s.pc.toNat ≤ 0xFFD
  /-- The index register holds an address, or the first number that is none. -/
  index_le : s.index.toNat ≤ 0xFFF
  /-- The cells that are not in use are zero. -/
  clean : s.stack.Clean
  /-- Calls are made from places with a whole instruction. -/
  items_le : ∀ a ∈ s.stack.items, a.toNat ≤ 0xFFD

namespace State

theorem wellFormed_initial (key : Key) : (State.initial g capacity key).WellFormed where
  pc_le := show (BitVec.ofNat 16 programStart).toNat ≤ 0xFFD by decide
  index_le := show (0 : Word).toNat ≤ 0xFFF by decide
  clean := CallStack.clean_empty
  items_le := by
    intro a ha
    rw [initial, CallStack.items_empty] at ha
    cases ha

/-! ## What a cycle keeps -/

variable {s t : State g capacity} {operation : Operation}

theorem index_effect_le (h : s.index.toNat ≤ 0xFFF) (o : Opcode) (operation : Operation) :
    (s.effect o operation).index.toNat ≤ 0xFFF := by
  have ha := o.address_lt
  rw [index_effect]
  split
  · rw [BitVec.toNat_ofNat]
    omega
  · rw [BitVec.toNat_ofNat]
    omega
  · rw [BitVec.toNat_ofNat, fontStart, glyphSize]
    refine Nat.le_trans (Nat.mod_le _ _) ?_
    omega
  · exact h

theorem address_pc_of_le (h : s.pc.toNat ≤ 0xFFD) : s.pc.address = s.pc := by
  rw [← BitVec.toNat_inj, Word.toNat_address]
  omega

/-- What a cycle does to the stack: a return finds a call to return to, a call finds room, and
anything else leaves the stack alone. -/
theorem stack_of_steps (hs : s.Steps operation t) :
    (operation = .ret ∧ s.stack.depth ≠ 0 ∧ t.stack = s.stack.popped) ∨
    (operation = .call ∧ s.stack.depth ≠ capacity ∧ t.stack = s.stack.pushed s.pc.address) ∨
    (operation ≠ .ret ∧ operation ≠ .call ∧ t.stack = s.stack) := by
  obtain ⟨-, -, hobstacle, -, -, rfl⟩ := hs
  have hstack := s.tickTimers.stack_effect s.opcode operation
  cases operation with
  | ret =>
    left
    refine ⟨rfl, fun hd ↦ ?_, hstack⟩
    simp only [obstacle?, hd, if_true, reduceCtorEq] at hobstacle
  | call =>
    right; left
    refine ⟨rfl, fun hd ↦ ?_, hstack⟩
    simp only [obstacle?, hd, if_true, reduceCtorEq] at hobstacle
  | _ =>
    right; right
    exact ⟨by decide, by decide, hstack⟩

theorem WellFormed.of_steps (h : s.WellFormed) (hs : s.Steps operation t) : t.WellFormed where
  pc_le := by
    have hle := hs.nextAddress_le
    rw [memorySize] at hle
    rw [hs.eq_next, toNat_pc_next]
    exact Nat.le_sub_of_add_le hle
  index_le := by
    rw [hs.eq_next]
    exact index_effect_le (s := s.tickTimers) h.index_le s.opcode operation
  clean := by
    rcases stack_of_steps hs with ⟨-, -, hstack⟩ | ⟨-, -, hstack⟩ | ⟨-, -, hstack⟩
    all_goals rw [hstack]
    · exact h.clean.popped
    · exact h.clean.pushed _
    · exact h.clean
  items_le := by
    intro a ha
    rcases stack_of_steps hs with ⟨-, hd, hstack⟩ | ⟨-, hd, hstack⟩ | ⟨-, -, hstack⟩
    all_goals rw [hstack] at ha
    · refine h.items_le a ?_
      rw [CallStack.items_popped hd]
      exact List.mem_append_left _ ha
    · -- the one new item is the program counter before the call
      rw [CallStack.items_pushed _ hd, List.mem_append, List.mem_singleton] at ha
      rcases ha with ha | rfl
      · exact h.items_le a ha
      · rw [address_pc_of_le h.pc_le]
        exact h.pc_le
    · exact h.items_le a ha

theorem WellFormed.of_eq (h : s.WellFormed) (hpc : t.pc = s.pc) (hindex : t.index = s.index)
    (hstack : t.stack = s.stack) : t.WellFormed :=
  ⟨hpc ▸ h.pc_le, hindex ▸ h.index_le, hstack ▸ h.clean, hstack ▸ h.items_le⟩

theorem kept_wellFormed : Kept fun (s : State g capacity) _ ↦ s.WellFormed where
  okTick h hs := h.of_steps hs
  errorTick h _ := h.of_eq rfl rfl rfl
  memory h _ := h.of_eq rfl rfl rfl
  keys h _ := h.of_eq rfl rfl rfl

/-! ## Consequences -/

theorem WellFormed.fetch_eq (h : s.WellFormed) : s.fetch = .ok s.opcode := by
  have hpc := h.pc_le
  rw [fetch_eq_ok_iff, memorySize]
  omega

/-- The sizes of a state are those of a machine of the given make: its screen, the call depth that
its stack has cells for, and the memory, registers and keys that all machines have. -/
structure Sized (s : State g capacity) (width height stackSize : Int) : Prop where
  width_eq : (g.width : Int) = width
  height_eq : (g.height : Int) = height
  capacity_eq : (capacity : Int) = stackSize
  memory_eq : s.memory.toList.length = 4095
  registers_eq : s.registers.toList.length = 16
  keys_eq : s.keys.toList.length = 16
  screen_eq : (s.screen.toList.length : Int) = width * height / 8
  cells_eq : (s.stack.cells.toList.length : Int) = stackSize
  depth_le : (s.stack.depth : Int) ≤ stackSize

end State

theorem Geometry.eq_of_ofSize {width height : Int} {g : Geometry}
    (h : Geometry.ofSize width height = .ok g) :
    (g.width : Int) = width ∧ (g.height : Int) = height := by
  rw [ofSize] at h
  split at h
  · split at h
    · obtain rfl := Except.ok.inj h
      simp only [Geometry.width]
      omega
    · cases h
  · cases h

theorem Config.eq_of_check {width height seed stackSize : Int} {c : Config}
    (hc : Config.check width height seed stackSize = .ok c) :
    (c.geometry.width : Int) = width ∧ (c.geometry.height : Int) = height ∧
      (c.capacity : Int) = stackSize := by
  rw [check] at hc
  split at hc
  · cases hc
  · cases hg : Geometry.ofSize width height with
    | error e =>
      rw [hg] at hc
      cases hc
    | ok geometry =>
      simp only [hg] at hc
      obtain ⟨hwidth, hheight⟩ := Geometry.eq_of_ofSize hg
      split at hc
      · cases hc
      · obtain rfl := Except.ok.inj hc
        exact ⟨hwidth, hheight, Int.toNat_of_nonneg (by omega)⟩

theorem State.sized {width height stackSize : Int} (hw : (g.width : Int) = width)
    (hh : (g.height : Int) = height) (hc : (capacity : Int) = stackSize) (s : State g capacity) :
    s.Sized width height stackSize where
  width_eq := hw
  height_eq := hh
  capacity_eq := hc
  memory_eq := s.memory.length_toList
  registers_eq := s.registers.length_toList
  keys_eq := s.keys.length_toList
  screen_eq := by
    rw [s.screen.length_toList, ← hw, ← hh, ← Int.natCast_mul, g.width_mul_height]
    omega
  cells_eq := by rw [s.stack.cells.length_toList, hc]
  depth_le := by
    have := s.stack.depth_le
    omega

namespace Machine

/-- No session leads out of the well-formed states. -/
theorem wellFormed_after {m : Machine g capacity} (h : m.state.WellFormed)
    (commands : List Command) : (m.after commands).state.WellFormed :=
  after_induction State.kept_wellFormed m [] (State.wellFormed_initial _) h commands

/-- A block outside memory that a tick reports has been asked for by the instruction that was
fetched, as long as one could be fetched. -/
theorem execute_of_tick_memoryAccess {m : Machine g capacity} {o : Opcode} {f : Fault}
    (ho : m.state.fetch = .ok o) (h : m.tick.result = .error (.fault f))
    (hkind : f.kind = .memoryAccess) :
    ∃ i e, o.decode = .ok i ∧ m.state.tickTimers.executeInstruction i = .error (.fault e) ∧
      e.cause = f.cause := by
  have hfetch : m.state.tickTimers.fetch = .ok o := ho
  simp only [tick, hfetch] at h
  cases hdecode : o.decode with
  | error e =>
    simp only [hdecode] at h
    cases h
    -- a word that is no instruction is another kind of fault
    rw [Opcode.decode] at hdecode
    split at hdecode
    · cases hdecode
    · cases hdecode
      cases hkind
  | ok i =>
    simp only [hdecode] at h
    cases hexec : m.state.tickTimers.executeInstruction i with
    | ok t =>
      simp only [hexec] at h
      cases h
    | error e =>
      cases e with
      | fault e =>
        simp only [hexec] at h
        cases h
        exact ⟨i, e, rfl, hexec, (Fault.cause_located ..).symm⟩
      | _ =>
        simp only [hexec] at h
        cases h

/-- **The states that a machine reaches.** However a machine is worked, its state keeps its sizes
and is well formed. An instruction can always be fetched, and a block outside memory that a tick
reports has been asked for by that instruction. -/
theorem after_reaches {width height seed stackSize : Int} {c : Config}
    (hc : Config.check width height seed stackSize = .ok c) (logger : Logger)
    (commands : List Command) :
    ((new c logger).after commands).state.Sized width height stackSize ∧
    ((new c logger).after commands).state.WellFormed ∧
    ∃ o, ((new c logger).after commands).state.fetch = .ok o ∧
      ∀ f, ((new c logger).after commands).tick.result = .error (.fault f) →
        f.kind = .memoryAccess →
        ∃ i e, o.decode = .ok i ∧
          ((new c logger).after commands).state.tickTimers.executeInstruction i =
            .error (.fault e) ∧ e.cause = f.cause := by
  have hwf := wellFormed_after (m := new c logger) (State.wellFormed_initial _) commands
  obtain ⟨hwidth, hheight, hcapacity⟩ := Config.eq_of_check hc
  refine ⟨State.sized hwidth hheight hcapacity _, hwf, _, hwf.fetch_eq, fun f hf hkind ↦ ?_⟩
  exact execute_of_tick_memoryAccess hwf.fetch_eq hf hkind

/-- A machine of the usual sizes, with a program that calls itself more often than it can. -/
theorem after_reaches_of_endless_calls :
    Config.check 64 32 0 16 = .ok ⟨⟨8, 32, by decide, by decide⟩, 16, 0⟩ ∧
      ((new ⟨⟨8, 32, by decide, by decide⟩, 16, 0⟩ (.plain .info)).after
        [.loadRom [0x22, 0x00], .run 20 false, .updateKeys [], .tick]).state.WellFormed := by
  have hcheck : Config.check 64 32 0 16 = .ok ⟨⟨8, 32, by decide, by decide⟩, 16, 0⟩ := rfl
  exact ⟨hcheck, (after_reaches hcheck (.plain .info) _).2.1⟩

end Machine

end ChipEight
