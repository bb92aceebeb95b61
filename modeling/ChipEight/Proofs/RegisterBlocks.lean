import ChipEight.Proofs.Frame

/-!
# Registers in memory and back

Three operations exchange registers with the bytes where the index register points. Storing writes
the registers up to one of them in a row, loading reads them back, and the third writes the decimal
digits of one register. What each of them leaves is told byte by byte and register by register by
`State.Stored`, `State.Loaded` and `State.StoredDigits`; how the operations undo each other is then
a matter of putting two of these together.

The second operation of a pair need not follow the first. What is loaded depends on memory and the
index register alone, so any state will do in which these two are as they were left.
-/

namespace ChipEight

variable {g : Geometry} {capacity : Nat}

namespace State

/-- That one state comes from another by storing the registers up to `x`. -/
structure Stored (s : State g capacity) (x : Fin registerCount) (t : State g capacity) : Prop where
  /-- Each of the registers stands at its own distance from the index register. -/
  byte_eq : ∀ r ≤ x, t.memory.read (s.index.toNat + r) = s.register r
  /-- The bytes before and behind them are as they were. -/
  rest_eq : ∀ a, a < s.index.toNat ∨ s.index.toNat + x < a → t.memory.read a = s.memory.read a
  /-- Execution goes on at the next instruction. -/
  toNat_pc : t.pc.toNat = (s.pc.toNat + 2) % 0x1000
  /-- Nothing else changes. -/
  eq_with : t = { s with memory := t.memory, pc := t.pc }

/-- That one state comes from another by loading the registers up to `x`. -/
structure Loaded (s : State g capacity) (x : Fin registerCount) (t : State g capacity) : Prop where
  /-- Each of the registers holds the byte at its own distance from the index register. -/
  register_eq : ∀ r ≤ x, t.register r = s.memory.read (s.index.toNat + r)
  /-- The registers behind them are as they were. -/
  rest_eq : ∀ r, x < r → t.register r = s.register r
  /-- Execution goes on at the next instruction. -/
  toNat_pc : t.pc.toNat = (s.pc.toNat + 2) % 0x1000
  /-- Nothing else changes. -/
  eq_with : t = { s with registers := t.registers, pc := t.pc }

/-- That one state comes from another by storing the decimal digits of the register `x`. -/
structure StoredDigits (s : State g capacity) (x : Fin registerCount) (t : State g capacity) :
    Prop where
  /-- Each of the three bytes is a digit. -/
  digit_le : ∀ i < 3, (t.memory.read (s.index.toNat + i)).toNat ≤ 9
  /-- They are the digits of the register. -/
  value_eq : 100 * (t.memory.read s.index.toNat).toNat +
    10 * (t.memory.read (s.index.toNat + 1)).toNat + (t.memory.read (s.index.toNat + 2)).toNat =
      (s.register x).toNat
  /-- The bytes before and behind them are as they were. -/
  rest_eq : ∀ a, a < s.index.toNat ∨ s.index.toNat + 2 < a → t.memory.read a = s.memory.read a
  /-- Execution goes on at the next instruction. -/
  toNat_pc : t.pc.toNat = (s.pc.toNat + 2) % 0x1000
  /-- Nothing else changes. -/
  eq_with : t = { s with memory := t.memory, pc := t.pc }

/-! ## Storing -/

theorem getElem?_take_registers (s : State g capacity) {x r : Fin registerCount} (h : r ≤ x) :
    (s.registers.toList.take (x + 1))[(r : Nat)]? = some (s.register r) := by
  have hr : (r : Nat) < x + 1 := Nat.lt_succ_of_le h
  rw [List.getElem?_take_of_lt hr, Vector.getElem?_toList]
  exact Vector.getElem?_eq_getElem r.isLt

theorem stored_next (s : State g capacity) {o : Opcode}
    (h : s.index.toNat + (o.n2 + 1) ≤ memorySize) : s.Stored o.n2 (s.next o .store) where
  byte_eq r hr := by
    have hlt : s.index.toNat + r < memorySize := by
      have : (r : Nat) ≤ o.n2 := hr
      omega
    exact s.memory.read_write (s.getElem?_take_registers hr) hlt
  rest_eq a ha := by
    have hblock : (o.withOperation .store).writtenBytes = o.n2 + 1 := rfl
    refine (s.frame_next o .store).memory a ?_
    omega
  toNat_pc := s.toNat_pc_next o .store
  eq_with := rfl

/-! ## Loading -/

theorem register_next_load (s : State g capacity) (o : Opcode) (r : Fin registerCount) :
    (s.next o .load).register r =
      if r ≤ o.n2 then s.memory.read (s.index.toNat + r) else s.register r := by
  rw [next, effect, register]
  exact Vector.getElem_ofFn ..

theorem loaded_next (s : State g capacity) (o : Opcode) : s.Loaded o.n2 (s.next o .load) where
  register_eq r hr := by rw [register_next_load, if_pos hr]
  rest_eq r hr := by rw [register_next_load, if_neg (Fin.not_le.mpr hr)]
  toNat_pc := s.toNat_pc_next o .load
  eq_with := by rw [next, effect]

/-! ## Digits -/

theorem toNat_read_next_decimal (s : State g capacity) (o : Opcode)
    (h : s.index.toNat + 3 ≤ memorySize) :
    ((s.next o .decimal).memory.read s.index.toNat).toNat = (s.register o.n2).toNat / 100 ∧
    ((s.next o .decimal).memory.read (s.index.toNat + 1)).toNat =
      (s.register o.n2).toNat / 10 % 10 ∧
    ((s.next o .decimal).memory.read (s.index.toNat + 2)).toNat =
      (s.register o.n2).toNat % 10 := by
  have hdigit {i k : Nat} (hk : (decimalDigits (s.register o.n2))[i]? = some (BitVec.ofNat 8 k))
      (hi : i < 3) (hlt : k < 0x100) :
      ((s.next o .decimal).memory.read (s.index.toNat + i)).toNat = k := by
    change ((s.memory.write s.index.toNat _).read (s.index.toNat + i)).toNat = k
    rw [s.memory.read_write hk (by omega), BitVec.toNat_ofNat, Nat.mod_eq_of_lt hlt]
  have hb : (s.register o.n2).toNat < 0x100 := (s.register o.n2).isLt
  exact ⟨hdigit (i := 0) rfl (by decide) (by omega), hdigit (i := 1) rfl (by decide) (by omega),
    hdigit (i := 2) rfl (by decide) (by omega)⟩

theorem storedDigits_next (s : State g capacity) {o : Opcode}
    (h : s.index.toNat + 3 ≤ memorySize) : s.StoredDigits o.n2 (s.next o .decimal) := by
  obtain ⟨hundreds, tens, ones⟩ := s.toNat_read_next_decimal o h
  have hb : (s.register o.n2).toNat < 0x100 := (s.register o.n2).isLt
  constructor
  case digit_le =>
    intro i hi
    obtain rfl | rfl | rfl : i = 0 ∨ i = 1 ∨ i = 2 := by omega
    · rw [Nat.add_zero]
      omega
    · omega
    · omega
  case value_eq => omega
  case rest_eq =>
    intro a ha
    have hblock : (o.withOperation .decimal).writtenBytes = 3 := rfl
    refine (s.frame_next o .decimal).memory a ?_
    omega
  case toNat_pc => exact s.toNat_pc_next o .decimal
  case eq_with => rfl

/-! ## Execution -/

section Execute

variable {s t : State g capacity} {o : Opcode}

theorem stored_of_execute (h : Operation.store.Matches o.word) (ht : s.execute o.value = .ok t) :
    s.Stored o.n2 t := by
  obtain ⟨hle, -⟩ := (exists_execute_block_iff_of_pos h (by decide) (Nat.succ_pos _)).mp ⟨t, ht⟩
  obtain ⟨-, rfl⟩ := (execute_eq_ok_iff h).mp ht
  exact s.stored_next hle

theorem loaded_of_execute (h : Operation.load.Matches o.word) (ht : s.execute o.value = .ok t) :
    s.Loaded o.n2 t := by
  obtain ⟨-, rfl⟩ := (execute_eq_ok_iff h).mp ht
  exact s.loaded_next o

theorem storedDigits_of_execute (h : Operation.decimal.Matches o.word)
    (ht : s.execute o.value = .ok t) : s.StoredDigits o.n2 t := by
  obtain ⟨hle, -⟩ := (exists_execute_block_iff_of_pos h (by decide) (Nat.succ_pos _)).mp ⟨t, ht⟩
  obtain ⟨-, rfl⟩ := (execute_eq_ok_iff h).mp ht
  exact s.storedDigits_next hle

end Execute

/-! ## There and back -/

section ThereAndBack

variable {s t u v : State g capacity} {x : Fin registerCount}

theorem Stored.register_eq (h : s.Stored x t) (hmemory : u.memory = t.memory)
    (hindex : u.index = t.index) (hv : u.Loaded x v) : ∀ r ≤ x, v.register r = s.register r := by
  intro r hr
  have hsame : u.index = s.index := by rw [hindex, h.eq_with]
  rw [hv.register_eq r hr, hmemory, hsame, h.byte_eq r hr]

theorem Loaded.memory_eq (h : s.Loaded x t) (hu : t.Stored x u) : u.memory = s.memory := by
  have hmemory : t.memory = s.memory := by rw [h.eq_with]
  have hindex : t.index = s.index := by rw [h.eq_with]
  apply Memory.eq_of_read_eq
  intro a _
  by_cases ha : a < s.index.toNat ∨ s.index.toNat + x < a
  · rw [hu.rest_eq a (hindex ▸ ha), hmemory]
  · -- the byte lies in the block, and its distance from the start is the number of its register
    have hx := x.isLt
    obtain ⟨r, rfl⟩ : ∃ r : Fin registerCount, s.index.toNat + r = a :=
      ⟨⟨a - s.index.toNat, by omega⟩, by dsimp only; omega⟩
    have hr : r ≤ x := by
      change (r : Nat) ≤ x
      omega
    rw [← h.register_eq r hr, ← hu.byte_eq r hr, hindex]

theorem StoredDigits.value_of_loaded (h : s.StoredDigits x t) (hmemory : u.memory = t.memory)
    (hindex : u.index = t.index) (hv : u.Loaded 2 v) :
    100 * (v.register 0).toNat + 10 * (v.register 1).toNat + (v.register 2).toNat =
      (s.register x).toNat := by
  have hsame : u.index = s.index := by rw [hindex, h.eq_with]
  rw [hv.register_eq 0 (by decide), hv.register_eq 1 (by decide), hv.register_eq 2 (by decide),
    hmemory, hsame, ← h.value_eq]
  rfl

end ThereAndBack

/-- **Registers make the round trip through memory.** Storing, loading and storing digits are
executed exactly where their block lies in memory and a whole instruction follows. Stored registers
come back when they are loaded in any state that agrees on memory and the index register, loaded
registers are stored without a change of memory, and the digits of a register that are loaded make
up its value. -/
theorem blocks_round_trip (s : State g capacity) (o : Opcode) :
    (Operation.store.Matches o.word →
      ((∃ t, s.execute o.value = .ok t) ↔
        s.index.toNat + (o.n2 + 1) ≤ memorySize ∧
          (s.pc.toNat + 2) % 0x1000 + 2 ≤ memorySize) ∧
      ∀ t, s.execute o.value = .ok t → s.Stored o.n2 t ∧
        ∀ (u v : State g capacity) (o' : Opcode), u.memory = t.memory → u.index = t.index →
          Operation.load.Matches o'.word → o'.n2 = o.n2 → u.execute o'.value = .ok v →
          (∀ r ≤ o.n2, v.register r = s.register r) ∧
            ∀ r, o.n2 < r → v.register r = u.register r) ∧
    (Operation.load.Matches o.word →
      ((∃ t, s.execute o.value = .ok t) ↔
        s.index.toNat + (o.n2 + 1) ≤ memorySize ∧
          (s.pc.toNat + 2) % 0x1000 + 2 ≤ memorySize) ∧
      ∀ t, s.execute o.value = .ok t → s.Loaded o.n2 t ∧
        ∀ (u : State g capacity) (o' : Opcode), Operation.store.Matches o'.word → o'.n2 = o.n2 →
          t.execute o'.value = .ok u → u.memory = s.memory) ∧
    (Operation.decimal.Matches o.word →
      ((∃ t, s.execute o.value = .ok t) ↔
        s.index.toNat + 3 ≤ memorySize ∧ (s.pc.toNat + 2) % 0x1000 + 2 ≤ memorySize) ∧
      ∀ t, s.execute o.value = .ok t → s.StoredDigits o.n2 t ∧
        ∀ u v : State g capacity, u.memory = t.memory → u.index = t.index →
          u.execute (Opcode.mk 0xF265).value = .ok v →
          100 * (v.register 0).toNat + 10 * (v.register 1).toNat + (v.register 2).toNat =
            (s.register o.n2).toNat) := by
  refine ⟨?store, ?load, ?decimal⟩
  case store =>
    intro h
    refine ⟨exists_execute_block_iff_of_pos h (by decide) (Nat.succ_pos _), ?_⟩
    intro t ht
    have hstored := stored_of_execute h ht
    refine ⟨hstored, ?_⟩
    -- the registers may have become others in between; what counts is the block in memory
    intro u v o' hmemory hindex h' hx hv
    have hloaded := loaded_of_execute h' hv
    rw [hx] at hloaded
    exact ⟨hstored.register_eq hmemory hindex hloaded, hloaded.rest_eq⟩
  case load =>
    intro h
    refine ⟨exists_execute_block_iff_of_pos h (by decide) (Nat.succ_pos _), ?_⟩
    intro t ht
    have hloaded := loaded_of_execute h ht
    refine ⟨hloaded, ?_⟩
    intro u o' h' hx hu
    have hstored := stored_of_execute h' hu
    rw [hx] at hstored
    exact hloaded.memory_eq hstored
  case decimal =>
    intro h
    refine ⟨exists_execute_block_iff_of_pos h (by decide) (Nat.succ_pos _), ?_⟩
    intro t ht
    have hstored := storedDigits_of_execute h ht
    refine ⟨hstored, ?_⟩
    intro u v hmemory hindex hv
    have hload : Operation.load.Matches (Opcode.mk 0xF265).word := by decide
    exact hstored.value_of_loaded hmemory hindex (loaded_of_execute hload hv)

/-- Three registers at the very end of memory, loaded by a state with other registers; the same
block loaded and stored; and the digits of the greatest byte. -/
theorem blocks_round_trip_of_end_of_memory :
    let s : State ⟨1, 1, Nat.succ_pos 0, Nat.succ_pos 0⟩ 0 :=
      { State.initial ⟨1, 1, Nat.succ_pos 0, Nat.succ_pos 0⟩ 0 ⟨0, 0⟩ with
        registers := (Vector.replicate registerCount 3).set 2 0xFF
        index := 4092 }
    (∃ t v, s.execute (Opcode.mk 0xF255).value = .ok t ∧ s.Stored 2 t ∧
      { t with registers := Vector.replicate registerCount 9 }.execute
        (Opcode.mk 0xF265).value = .ok v ∧ v.register 2 = s.register 2) ∧
    (∃ t u, s.execute (Opcode.mk 0xF265).value = .ok t ∧
      t.execute (Opcode.mk 0xF255).value = .ok u ∧ u.memory = s.memory) ∧
    ∃ t v, s.execute (Opcode.mk 0xF233).value = .ok t ∧
      t.execute (Opcode.mk 0xF265).value = .ok v ∧
      100 * (v.register 0).toNat + 10 * (v.register 1).toNat + (v.register 2).toNat = 255 := by
  intro s
  have hstore : Operation.store.Matches (Opcode.mk 0xF255).word := by decide
  have hload : Operation.load.Matches (Opcode.mk 0xF265).word := by decide
  have hdecimal : Operation.decimal.Matches (Opcode.mk 0xF233).word := by decide
  refine ⟨?_, ?_, ?_⟩
  · let t := s.next ⟨0xF255⟩ .store
    let u : State _ _ := { t with registers := Vector.replicate registerCount 9 }
    have ht : s.execute (Opcode.mk 0xF255).value = .ok t :=
      (execute_eq_ok_iff hstore).mpr ⟨by decide, rfl⟩
    have hv : u.execute (Opcode.mk 0xF265).value = .ok (u.next ⟨0xF265⟩ .load) :=
      (execute_eq_ok_iff hload).mpr ⟨by decide, rfl⟩
    obtain ⟨hstored, hback⟩ := ((s.blocks_round_trip ⟨0xF255⟩).1 hstore).2 t ht
    exact ⟨t, _, ht, hstored, hv, (hback u _ ⟨0xF265⟩ rfl rfl hload rfl hv).1 2 (by decide)⟩
  · let t := s.next ⟨0xF265⟩ .load
    have ht : s.execute (Opcode.mk 0xF265).value = .ok t :=
      (execute_eq_ok_iff hload).mpr ⟨by decide, rfl⟩
    have hu : t.execute (Opcode.mk 0xF255).value = .ok (t.next ⟨0xF255⟩ .store) :=
      (execute_eq_ok_iff hstore).mpr ⟨by decide, rfl⟩
    obtain ⟨-, hback⟩ := ((s.blocks_round_trip ⟨0xF265⟩).2.1 hload).2 t ht
    exact ⟨t, _, ht, hu, hback _ ⟨0xF255⟩ hstore rfl hu⟩
  · let t := s.next ⟨0xF233⟩ .decimal
    have ht : s.execute (Opcode.mk 0xF233).value = .ok t :=
      (execute_eq_ok_iff hdecimal).mpr ⟨by decide, rfl⟩
    have hv : t.execute (Opcode.mk 0xF265).value = .ok (t.next ⟨0xF265⟩ .load) :=
      (execute_eq_ok_iff hload).mpr ⟨by decide, rfl⟩
    obtain ⟨-, hback⟩ := ((s.blocks_round_trip ⟨0xF233⟩).2.2 hdecimal).2 t ht
    exact ⟨t, _, ht, hv, hback t _ rfl rfl hv⟩

end State

end ChipEight
