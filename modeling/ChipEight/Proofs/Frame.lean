import ChipEight.Proofs.Ending
import ChipEight.Proofs.History

/-!
# What an instruction may change

Most of a state is no concern of an instruction. `State.Frame` says for each instruction what it may
change, at the grain of single registers and single bytes of memory, and that everything else is as
it was. Only the program counter is left out: where that goes is the subject of another file.

## Memory in the long run

Two operations write memory, and each of them tells its block from the index register and its own
operands. Loading writes memory too, but never outside the program area. So what stands outside that
area at the end of a session, the glyphs among it, is what the last tick whose block covers the
address has left there, or else what stood there at the beginning. That is `Tick.leftAt`, and it
does not mention the programs that were loaded.
-/

namespace ChipEight

variable {g : Geometry} {capacity : Nat}

/-! ## The reach of an instruction -/

namespace Instruction

def writtenBytes (i : Instruction) : Nat :=
  match i.operation with
  | .decimal => 3
  | .store => i.x + 1
  | _ => 0

/-- Whether a register is one that an instruction may write. -/
def MayWrite (i : Instruction) (r : Fin registerCount) : Prop :=
  match i.operation with
  | .loadConst | .addConst | .copy | .or | .and | .xor | .random | .readDelay | .waitKey => r = i.x
  | .add | .sub | .shiftRight | .subFrom | .shiftLeft => r = i.x ∨ r = flagRegister
  | .draw | .addIndex => r = flagRegister
  | .load => r ≤ i.x
  | _ => False

end Instruction

namespace State

/-- That two states differ in nothing but the program counter and what an instruction may change
when it is executed in the first of them. -/
structure Frame (i : Instruction) (s t : State g capacity) : Prop where
  rng : i.operation ≠ .random → t.rng = s.rng
  memory : ∀ a, ¬(s.index.toNat ≤ a ∧ a < s.index.toNat + i.writtenBytes) →
    t.memory.read a = s.memory.read a
  registers : ∀ r, ¬i.MayWrite r → t.register r = s.register r
  index : i.operation ∉ [.setIndex, .addIndex, .glyph] → t.index = s.index
  stack : i.operation ∉ [.call, .ret] → t.stack = s.stack
  keys : t.keys = s.keys
  screen : i.operation ∉ [.clearScreen, .draw] → t.screen = s.screen
  delayTimer : i.operation ≠ .setDelay → t.delayTimer = s.delayTimer
  soundTimer : i.operation ≠ .setSound → t.soundTimer = s.soundTimer

/-! ## Registers -/

theorem register_setRegister (s : State g capacity) (x : Fin registerCount) (v : Byte) :
    (s.setRegister x v).register x = v :=
  Vector.getElem_set_self x.isLt

theorem register_setFlag (s : State g capacity) (flag : Bool) :
    (s.setFlag flag).register flagRegister = if flag then 1 else 0 :=
  s.register_setRegister flagRegister _

theorem register_setRegister_of_ne (s : State g capacity) {x r : Fin registerCount} (h : r ≠ x)
    (v : Byte) : (s.setRegister x v).register r = s.register r :=
  Vector.getElem_set_ne x.isLt r.isLt fun hx ↦ h (Fin.ext hx.symm)

theorem register_setFlag_of_ne (s : State g capacity) {r : Fin registerCount}
    (h : r ≠ flagRegister) (flag : Bool) : (s.setFlag flag).register r = s.register r :=
  s.register_setRegister_of_ne h _

theorem register_arithmetic_of_ne (s : State g capacity) (f : Byte → Byte → Arithmetic)
    {x r : Fin registerCount} (y : Fin registerCount) (hx : r ≠ x)
    (hflag : (f (s.register x) (s.register y)).flag ≠ none → r ≠ flagRegister) :
    (s.arithmetic f x y).register r = s.register r := by
  rw [arithmetic]
  cases h : (f (s.register x) (s.register y)).flag with
  | none => exact s.register_setRegister_of_ne hx _
  | some flag =>
    have hr : r ≠ flagRegister := hflag (h ▸ Option.some_ne_none flag)
    exact (register_setFlag_of_ne _ hr flag).trans (s.register_setRegister_of_ne hx _)

theorem register_waitKey_of_ne (s : State g capacity) {x r : Fin registerCount} (h : r ≠ x) :
    (s.waitKey x).register r = s.register r := by
  rw [waitKey]
  cases s.lowestKey? with
  | none => rfl
  | some k => exact s.register_setRegister_of_ne h _

theorem register_effect_of_not_mayWrite (s : State g capacity) (o : Opcode)
    (operation : Operation) {r : Fin registerCount}
    (h : ¬(o.withOperation operation).MayWrite r) :
    (s.effect o operation).register r = s.register r := by
  cases operation with
  | loadConst | addConst | random | readDelay => exact s.register_setRegister_of_ne h _
  | copy | or | and | xor => exact s.register_arithmetic_of_ne _ _ h fun hflag ↦ absurd rfl hflag
  | add | sub | shiftRight | subFrom | shiftLeft =>
    obtain ⟨hx, hflag⟩ := not_or.mp h
    exact s.register_arithmetic_of_ne _ _ hx fun _ ↦ hflag
  | draw | addIndex => exact s.register_setFlag_of_ne h _
  | waitKey => exact s.register_waitKey_of_ne h
  | load =>
    have hr : ¬r ≤ o.n2 := h
    rw [effect, register]
    exact (Vector.getElem_ofFn ..).trans (if_neg hr)
  | _ => rfl

/-! ## Everything else -/

theorem frame_effect (s : State g capacity) (o : Opcode) (operation : Operation) :
    s.Frame (o.withOperation operation) (s.effect o operation) where
  rng h := by
    rw [rng_effect]
    cases operation with
    | random => exact absurd rfl h
    | _ => rfl
  memory a h := by
    rw [memory_effect]
    cases operation with
    | decimal => exact Memory.read_write_of_not_mem _ h
    | store =>
      have hlength : (s.registers.toList.take (o.n2 + 1)).length = o.n2 + 1 := by
        rw [List.length_take, Vector.length_toList]
        exact Nat.min_eq_left o.n2.isLt
      refine Memory.read_write_of_not_mem _ ?_
      rwa [hlength]
    | _ => rfl
  registers r h := s.register_effect_of_not_mayWrite o operation h
  index h := by
    -- the condition of a field is a list of operations, spelled out by unfolding it
    change operation ∉ _ at h
    rw [index_effect]
    cases operation with
    | setIndex | addIndex | glyph => exact absurd (by decide) h
    | _ => rfl
  stack h := by
    change operation ∉ _ at h
    rw [stack_effect]
    cases operation with
    | call | ret => exact absurd (by decide) h
    | _ => rfl
  keys := s.keys_effect o operation
  screen h := by
    change operation ∉ _ at h
    rw [screen_effect]
    cases operation with
    | clearScreen | draw => exact absurd (by decide) h
    | _ => rfl
  delayTimer h := by
    rw [delayTimer_effect]
    cases operation with
    | setDelay => exact absurd rfl h
    | _ => rfl
  soundTimer h := by
    rw [soundTimer_effect]
    cases operation with
    | setSound => exact absurd rfl h
    | _ => rfl

/-- The next state differs from the effect in the program counter alone, which no frame looks at. -/
theorem frame_next (s : State g capacity) (o : Opcode) (operation : Operation) :
    s.Frame (o.withOperation operation) (s.next o operation) :=
  { s.frame_effect o operation with }

theorem frame_of_execute {s t : State g capacity} {w : Int} (h : s.execute w = .ok t) :
    ∃ i, decode w = .ok i ∧ i.operation.Matches (BitVec.ofInt 16 w) ∧ s.Frame i t := by
  by_cases hw : w < 0 ∨ 0xFFFF < w
  · rw [s.execute_of_not_le hw] at h
    cases h
  rw [s.execute_of_le (by omega) (by omega)] at h
  rw [decode_of_le (by omega) (by omega), Opcode.decode]
  cases hop : (Opcode.mk (BitVec.ofInt 16 w)).operation? with
  | none =>
    rw [hop] at h
    cases h
  | some operation =>
    simp only [hop] at h
    cases hf : s.failure? ⟨BitVec.ofInt 16 w⟩ operation with
    | some e =>
      rw [hf] at h
      cases h
    | none =>
      rw [hf] at h
      obtain rfl := Except.ok.inj h
      exact ⟨_, rfl, Opcode.matches_of_operation? hop, s.frame_next _ operation⟩

end State

/-! ## Memory over a session -/

namespace Tick

/-- Whether a tick has written an address: it has succeeded, and the block that its instruction
writes covers the address. -/
def Writes (r : Tick g capacity) (a : Nat) : Prop :=
  ∃ i ∈ r.result.toOption,
    r.before.index.toNat ≤ a ∧ a < r.before.index.toNat + i.writtenBytes

instance (r : Tick g capacity) (a : Nat) : Decidable (r.Writes a) :=
  inferInstanceAs (Decidable (∃ i ∈ r.result.toOption, _))

/-- What some ticks have left at an address outside the program area. -/
def leftAt (a : Nat) (past : List (Tick g capacity)) : Byte :=
  match (past.filter fun r ↦ r.Writes a).getLast? with
  | some r => r.after.memory.read a
  | none => Memory.initial.read a

theorem leftAt_append (a : Nat) (past : List (Tick g capacity)) (r : Tick g capacity) :
    leftAt a (past ++ [r]) = if r.Writes a then r.after.memory.read a else leftAt a past := by
  rw [leftAt, List.filter_append]
  by_cases h : r.Writes a
  · have hr : [r].filter (fun r ↦ r.Writes a) = [r] := by simp [h]
    rw [hr, List.getLast?_concat, if_pos h]
  · have hr : [r].filter (fun r ↦ r.Writes a) = [] := by simp [h]
    rw [hr, List.append_nil, if_neg h, leftAt]

end Tick

namespace State

theorem writes_okTick {s t : State g capacity} {operation : Operation} {a : Nat} :
    (s.okTick operation t).Writes a ↔ s.index.toNat ≤ a ∧
      a < s.index.toNat + (s.opcode.withOperation operation).writtenBytes := by
  constructor
  · rintro ⟨i, hi, h⟩
    obtain rfl := Option.some.inj hi
    exact h
  · intro h
    exact ⟨_, rfl, h⟩

theorem not_writes_errorTick {s : State g capacity} {e : Failure} {a : Nat} :
    ¬(s.errorTick e).Writes a := by
  rintro ⟨i, hi, -⟩
  cases hi

/-- Outside the program area, what a cycle or a program that is loaded leaves is what `Tick.leftAt`
tells. -/
theorem keptByCommands_leftAt {a : Nat} (ha : a < 0x200 ∨ 0x5FF < a) :
    KeptByCommands fun (s : State g capacity) past ↦ s.memory.read a = Tick.leftAt a past where
  okTick {s t past operation} h hs := by
    rw [Tick.leftAt_append]
    by_cases hw : (s.okTick operation t).Writes a
    · rw [if_pos hw]
      rfl
    · rw [if_neg hw, ← h, hs.eq_next]
      -- counting the timers changes neither memory nor where the block is
      exact (s.tickTimers.frame_next s.opcode operation).memory a fun hblock ↦
        hw (writes_okTick.mpr hblock)
  errorTick h _ := by
    rw [Tick.leftAt_append, if_neg not_writes_errorTick]
    exact h
  rom {s past} h rom hrom := by
    rw [← h]
    refine Memory.read_write_of_not_mem _ ?_
    rw [programStart]
    rw [maxRomSize] at hrom
    omega
  keys h _ := h

/-- **What an instruction may change.** A word that is executed stands for an instruction, and
nothing changes that this instruction may not change. However a machine is worked, what it holds
outside the program area is what the last tick has left there that wrote the place, or else what was
there at first. -/
theorem changes_within_reach :
    (∀ (g : Geometry) (capacity : Nat) (s t : State g capacity) (w : Int), s.execute w = .ok t →
      ∃ i, decode w = .ok i ∧ i.operation.Matches (BitVec.ofInt 16 w) ∧ s.Frame i t) ∧
    ∀ (c : Config) (logger : Logger) (commands : List Command) (a : Nat),
      a < 0x200 ∨ 0x5FF < a →
      ((Machine.new c logger).after commands).state.memory.read a =
        Tick.leftAt a ((Machine.new c logger).history [] commands) := by
  refine ⟨fun _ _ _ _ _ h ↦ frame_of_execute h, fun c logger commands a ha ↦ ?_⟩
  exact Machine.after_keeps (keptByCommands_leftAt ha) (Machine.new c logger) [] rfl rfl commands

/-- A register that is stored over the first glyph, by itself and in a session. -/
theorem changes_within_reach_of_glyph_overwritten :
    ((Machine.new (.usual 0) (.plain .info)).state.execute 0xF055 =
        .ok ((Machine.new (.usual 0) (.plain .info)).state.next ⟨0xF055⟩ .store) ∧
      (Machine.new (.usual 0) (.plain .info)).state.Frame ((Opcode.mk 0xF055).withOperation .store)
        ((Machine.new (.usual 0) (.plain .info)).state.next ⟨0xF055⟩ .store)) ∧
    Memory.initial.read 0 = 0xF0 ∧
    ((Machine.new (.usual 0) (.plain .info)).after
      [.loadRom [0xF0, 0x55], .tick]).state.memory.read 0 = 0 := by
  have hexecute : (Machine.new (.usual 0) (.plain .info)).state.execute 0xF055 =
      .ok ((Machine.new (.usual 0) (.plain .info)).state.next ⟨0xF055⟩ .store) := rfl
  obtain ⟨i, hi, -, hframe⟩ := changes_within_reach.1 _ _ _ _ _ hexecute
  obtain rfl := Except.ok.inj hi
  refine ⟨⟨hexecute, hframe⟩, by decide +kernel, ?_⟩
  rw [changes_within_reach.2 _ _ _ 0 (.inl (by decide))]
  decide +kernel

end State

end ChipEight
