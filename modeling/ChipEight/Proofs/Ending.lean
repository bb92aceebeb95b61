import ChipEight.Proofs.Cycle
import ChipEight.Proofs.InstructionTable

/-!
# How execution ends

Executing a number has seven endings: the number is too wide, its word lies in no row of the
instruction table, the call stack is empty or full, some bytes lie outside memory, a sprite is drawn
on a screen with a side of `2 ^ 31` pixels or more, or execution goes on somewhere. `State.ending`
tells which of them it is from the table, the state's numbers and nothing else, and the main result
is that execution ends that way.

Several things can be wrong at once. The endings are therefore listed by priority, and each of them
is what happens when none before it does: the stack and the operand are looked at before the place
where execution would go on.
-/

namespace ChipEight

/-- The row of the instruction table that a word lies in. -/
def Operation.row? (w : Word) : Option Operation :=
  Operation.all.find? fun operation ↦ operation.Matches w

theorem Operation.row?_eq_operation? (w : Word) :
    Operation.row? w = (Opcode.mk w).operation? := by
  cases hop : (Opcode.mk w).operation? with
  | none =>
    rw [row?, List.find?_eq_none]
    intro operation _
    rw [decide_eq_true_eq]
    exact Opcode.operation?_eq_none_iff.mp hop operation
  | some operation =>
    have hrow : operation.Matches w := Opcode.matches_of_operation? hop
    obtain ⟨other, hfind⟩ : ∃ other, Operation.row? w = some other :=
      Option.isSome_iff_exists.mp
        (List.find?_isSome.mpr ⟨operation, operation.mem_all, decide_eq_true hrow⟩)
    have hother : other.Matches w := by
      rw [row?] at hfind
      simpa using List.find?_some hfind
    rw [hfind, eq_of_matches hother hrow]

theorem Operation.row?_eq_some_iff {w : Word} {operation : Operation} :
    Operation.row? w = some operation ↔ operation.Matches w := by
  rw [row?_eq_operation?, Opcode.operation?_eq_some_iff]

theorem Operation.row?_eq_none_iff {w : Word} :
    Operation.row? w = none ↔ ∀ operation : Operation, ¬operation.Matches w := by
  rw [row?_eq_operation?, Opcode.operation?_eq_none_iff]

namespace State

variable {g : Geometry} {capacity : Nat}

/-- How executing a decoded instruction ends: with a report, or with the address where execution
goes on. -/
def endingOf (s : State g capacity) (o : Opcode) (operation : Operation) : Except Failure Nat :=
  if operation = .ret ∧ s.stack.depth = 0 then .error (.fault { cause := .stackUnderflow })
  else if operation = .call ∧ s.stack.depth = capacity then
    .error (.fault { cause := .stackOverflow capacity })
  else if 0 < o.blockLength operation ∧ 4095 < s.index.toNat + o.blockLength operation then
    .error (.fault (.memoryAccess s.index.toNat (o.blockLength operation)))
  else if operation = .draw ∧ 0x80000000 ≤ g.width then
    .error (.range (.operand .divisor g.width))
  else if operation = .draw ∧ 0x80000000 ≤ g.height then
    .error (.range (.operand .divisor g.height))
  else if 0xFFD < s.nextAddress o operation then
    .error (.fault (.memoryAccess (s.nextAddress o operation) 2))
  else .ok (s.nextAddress o operation)

def ending (s : State g capacity) (w : Int) : Except Failure Nat :=
  if w < 0 ∨ 0xFFFF < w then .error (.range (.opcode w))
  else
    match Operation.row? (BitVec.ofInt 16 w) with
    | none => .error (.fault (.unknownOpcode w))
    | some operation => s.endingOf ⟨BitVec.ofInt 16 w⟩ operation

/-! ## Execution by the opcode -/

theorem decode_of_le {w : Int} (h0 : 0 ≤ w) (h1 : w ≤ 0xFFFF) :
    decode w = (Opcode.mk (BitVec.ofInt 16 w)).decode.mapError .fault := by
  rw [decode, Opcode.ofInt, if_pos ⟨h0, h1⟩]

theorem decode_of_not_le {w : Int} (h : w < 0 ∨ 0xFFFF < w) :
    decode w = .error (.range (.opcode w)) := by
  rw [decode, Opcode.ofInt, if_neg (by omega)]

theorem value_ofInt {w : Int} (h0 : 0 ≤ w) (h1 : w ≤ 0xFFFF) :
    ((Opcode.mk (BitVec.ofInt 16 w)).value : Int) = w := by
  rw [Opcode.value, BitVec.toNat_ofInt]
  omega

theorem execute_of_not_le (s : State g capacity) {w : Int} (h : w < 0 ∨ 0xFFFF < w) :
    s.execute w = .error (.range (.opcode w)) := by
  rw [execute, decode_of_not_le h]
  rfl

theorem execute_of_le (s : State g capacity) {w : Int} (h0 : 0 ≤ w) (h1 : w ≤ 0xFFFF) :
    s.execute w =
      match (Opcode.mk (BitVec.ofInt 16 w)).operation? with
      | none => .error (.fault (.unknownOpcode w))
      | some operation =>
        match s.failure? ⟨BitVec.ofInt 16 w⟩ operation with
        | some e => .error e
        | none => .ok (s.next ⟨BitVec.ofInt 16 w⟩ operation) := by
  rw [execute, decode_of_le h0 h1, Opcode.decode, value_ofInt h0 h1]
  cases hop : (Opcode.mk (BitVec.ofInt 16 w)).operation? with
  | none => rfl
  | some operation => exact s.executeInstruction_withOperation ⟨BitVec.ofInt 16 w⟩ operation

/-- A word is executed as the operation in whose row it lies. -/
theorem execute_of_matches (s : State g capacity) {o : Opcode} {operation : Operation}
    (h : operation.Matches o.word) :
    s.execute o.value =
      match s.failure? o operation with
      | some e => .error e
      | none => .ok (s.next o operation) := by
  have hlt := o.value_lt
  have hword : BitVec.ofInt 16 o.value = o.word := by
    rw [BitVec.ofInt_natCast, Opcode.value, BitVec.ofNat_toNat, BitVec.setWidth_eq]
  rw [s.execute_of_le (by omega) (by omega), hword, Opcode.operation?_of_matches h]

theorem execute_eq_ok_iff {s t : State g capacity} {o : Opcode} {operation : Operation}
    (h : operation.Matches o.word) :
    s.execute o.value = .ok t ↔ s.failure? o operation = none ∧ t = s.next o operation := by
  rw [s.execute_of_matches h]
  cases s.failure? o operation with
  | some e => simp
  | none => simp [eq_comm]

theorem exists_execute_iff {s : State g capacity} {o : Opcode} {operation : Operation}
    (h : operation.Matches o.word) :
    (∃ t, s.execute o.value = .ok t) ↔
      s.obstacle? o operation = none ∧ g.overflow? operation = none ∧
        s.nextAddress o operation + 2 ≤ memorySize := by
  simp only [execute_eq_ok_iff h, exists_and_left, exists_eq, and_true, failure?_eq_none_iff]

theorem exists_execute_block_iff {s : State g capacity} {o : Opcode} {operation : Operation}
    (h : operation.Matches o.word) (hop : operation ∈ [.draw, .decimal, .store, .load]) :
    (∃ t, s.execute o.value = .ok t) ↔
      (0 < o.blockLength operation → s.index.toNat + o.blockLength operation ≤ memorySize) ∧
        (operation = .draw → g.width < 0x80000000 ∧ g.height < 0x80000000) ∧
        (s.pc.toNat + 2) % 0x1000 + 2 ≤ memorySize := by
  have hobstacle : s.obstacle? o operation =
      Memory.outside? s.index.toNat (o.blockLength operation) := by
    cases operation with
    | call | ret => exact absurd hop (by decide)
    | _ => rfl
  have hnext : s.nextAddress o operation = (s.pc.toNat + 2) % 0x1000 := by
    simp only [List.mem_cons, List.not_mem_nil, or_false] at hop
    rcases hop with rfl | rfl | rfl | rfl <;> rfl
  rw [exists_execute_iff h, hobstacle, hnext, Memory.outside?_eq_none,
    Geometry.overflow?_eq_none_iff]

theorem exists_execute_block_iff_of_pos {s : State g capacity} {o : Opcode}
    {operation : Operation} (h : operation.Matches o.word)
    (hop : operation ∈ [.decimal, .store, .load]) (hpos : 0 < o.blockLength operation) :
    (∃ t, s.execute o.value = .ok t) ↔ s.index.toNat + o.blockLength operation ≤ memorySize ∧
      (s.pc.toNat + 2) % 0x1000 + 2 ≤ memorySize := by
  have hne : operation ≠ .draw := by
    rintro rfl
    exact absurd hop (by decide)
  rw [exists_execute_block_iff h (List.mem_cons_of_mem _ hop), forall_prop_of_true hpos]
  simp only [hne, false_imp_iff, true_and]

/-! ## Faults by priority -/

theorem obstacle?_eq (s : State g capacity) (o : Opcode) (operation : Operation) :
    s.obstacle? o operation =
      if operation = .ret ∧ s.stack.depth = 0 then some .stackUnderflow
      else if operation = .call ∧ s.stack.depth = capacity then some (.stackOverflow capacity)
      else Memory.outside? s.index.toNat (o.blockLength operation) := by
  cases operation <;> simp [obstacle?, Opcode.blockLength, Memory.outside?]

theorem overflow?_eq (operation : Operation) :
    g.overflow? operation =
      if operation = .draw ∧ 0x80000000 ≤ g.width then some (.operand .divisor g.width)
      else if operation = .draw ∧ 0x80000000 ≤ g.height then some (.operand .divisor g.height)
      else none := by
  by_cases hdraw : operation = .draw
  · simp only [hdraw, true_and, Geometry.overflow?, Geometry.oversize?]
    repeat' split
    all_goals rfl
  · simp only [hdraw, false_and, if_false, Geometry.overflow?_of_ne hdraw]

theorem map_pc_executeInstruction (s : State g capacity) (o : Opcode) (operation : Operation) :
    (s.executeInstruction (o.withOperation operation)).map (fun t ↦ t.pc.toNat) =
      s.endingOf o operation := by
  -- the last word with room begins at `0xFFD`
  have hpc : (0 < 2 ∧ memorySize < s.nextAddress o operation + 2) ↔
      0xFFD < s.nextAddress o operation := by
    simp only [memorySize]
    omega
  rw [executeInstruction_withOperation, failure?, obstacle?_eq, overflow?_eq, endingOf]
  simp only [Memory.outside?, hpc]
  -- now both sides ask the same six questions in the same order
  by_cases hret : operation = .ret ∧ s.stack.depth = 0
  · rw [if_pos hret, if_pos hret]
    rfl
  by_cases hcall : operation = .call ∧ s.stack.depth = capacity
  · rw [if_neg hret, if_neg hret, if_pos hcall, if_pos hcall]
    rfl
  rw [if_neg hret, if_neg hret, if_neg hcall, if_neg hcall]
  by_cases hblock : 0 < o.blockLength operation ∧ 4095 < s.index.toNat + o.blockLength operation
  · rw [if_pos hblock, if_pos hblock]
    rfl
  rw [if_neg hblock, if_neg hblock]
  by_cases hwidth : operation = .draw ∧ 0x80000000 ≤ g.width
  · rw [if_pos hwidth, if_pos hwidth]
    rfl
  rw [if_neg hwidth, if_neg hwidth]
  by_cases hheight : operation = .draw ∧ 0x80000000 ≤ g.height
  · rw [if_pos hheight, if_pos hheight]
    rfl
  rw [if_neg hheight, if_neg hheight]
  by_cases hnext : 0xFFD < s.nextAddress o operation
  · rw [if_pos hnext, if_pos hnext]
    rfl
  · rw [if_neg hnext, if_neg hnext]
    exact congrArg Except.ok (s.toNat_pc_next o operation)

theorem map_pc_execute (s : State g capacity) (w : Int) :
    (s.execute w).map (fun t ↦ t.pc.toNat) = s.ending w := by
  by_cases hw : w < 0 ∨ 0xFFFF < w
  · rw [s.execute_of_not_le hw, ending, if_pos hw]
    rfl
  · rw [s.execute_of_le (by omega) (by omega), ending, if_neg hw, Operation.row?_eq_operation?]
    cases (Opcode.mk (BitVec.ofInt 16 w)).operation? with
    | none => rfl
    | some operation =>
      have h := s.map_pc_executeInstruction ⟨BitVec.ofInt 16 w⟩ operation
      rw [executeInstruction_withOperation] at h
      exact h

theorem execute_eq_error_iff {s : State g capacity} {w : Int} {e : Failure} :
    s.execute w = .error e ↔ s.ending w = .error e := by
  rw [← map_pc_execute]
  cases s.execute w <;> simp [Except.map]

/-! ## When each fault arises

Four of the endings have a condition that does not mention the others: whatever else is wrong, they
come first. -/

theorem endingOf_underflow_iff {s : State g capacity} {o : Opcode} {operation : Operation} :
    (∃ f, s.endingOf o operation = .error (.fault f) ∧ f.kind = .stackUnderflow) ↔
      operation = .ret ∧ s.stack.depth = 0 := by
  rw [endingOf]
  repeat' split
  all_goals simp_all [Fault.kind, Cause.kind, Fault.memoryAccess]

theorem endingOf_overflow_iff {s : State g capacity} {o : Opcode} {operation : Operation} :
    (∃ f, s.endingOf o operation = .error (.fault f) ∧ f.kind = .stackOverflow) ↔
      operation = .call ∧ s.stack.depth = capacity := by
  rw [endingOf]
  repeat' split
  all_goals simp_all [Fault.kind, Cause.kind, Fault.memoryAccess]

theorem endingOf_ne_unknownOpcode {s : State g capacity} {o : Opcode} {operation : Operation}
    {f : Fault} (h : s.endingOf o operation = .error (.fault f)) : f.kind ≠ .unknownOpcode := by
  rw [endingOf] at h
  repeat' split at h
  all_goals cases h
  all_goals simp [Fault.kind, Cause.kind, Fault.memoryAccess]

theorem endingOf_ne_opcode {s : State g capacity} {o : Opcode} {operation : Operation}
    {v : Int} : s.endingOf o operation ≠ .error (.range (.opcode v)) := by
  rw [endingOf]
  repeat' split
  all_goals simp

theorem ending_opcode_iff {s : State g capacity} {w : Int} :
    (∃ v, s.ending w = .error (.range (.opcode v))) ↔ w < 0 ∨ 0xFFFF < w := by
  rw [ending]
  by_cases hw : w < 0 ∨ 0xFFFF < w
  · rw [if_pos hw]
    exact ⟨fun _ ↦ hw, fun _ ↦ ⟨_, rfl⟩⟩
  · rw [if_neg hw]
    cases Operation.row? (BitVec.ofInt 16 w) with
    | none => simp [hw]
    | some operation => simp [hw, endingOf_ne_opcode]

theorem ending_unknownOpcode_iff {s : State g capacity} {w : Int} :
    (∃ f, s.ending w = .error (.fault f) ∧ f.kind = .unknownOpcode) ↔
      (0 ≤ w ∧ w ≤ 0xFFFF) ∧
        ∀ operation : Operation, ¬operation.Matches (BitVec.ofInt 16 w) := by
  rw [ending, ← Operation.row?_eq_none_iff]
  by_cases hw : w < 0 ∨ 0xFFFF < w
  · rw [if_pos hw]
    constructor
    · rintro ⟨f, hf, -⟩
      cases hf
    · rintro ⟨hle, -⟩
      omega
  · rw [if_neg hw]
    cases hrow : Operation.row? (BitVec.ofInt 16 w) with
    | none => exact ⟨fun _ ↦ ⟨by omega, rfl⟩, fun _ ↦ ⟨_, rfl, rfl⟩⟩
    | some operation =>
      constructor
      · rintro ⟨f, hf, hkind⟩
        exact absurd hkind (endingOf_ne_unknownOpcode hf)
      · rintro ⟨-, hnone⟩
        cases hnone

/-- Faults of other kinds than an unknown opcode are those of the instruction. -/
theorem ending_fault_iff {s : State g capacity} {w : Int} {k : FaultKind}
    (hk : k ≠ .unknownOpcode) :
    (∃ f, s.ending w = .error (.fault f) ∧ f.kind = k) ↔
      ∃ operation : Operation, ((0 ≤ w ∧ w ≤ 0xFFFF) ∧ operation.Matches (BitVec.ofInt 16 w)) ∧
        ∃ f, s.endingOf ⟨BitVec.ofInt 16 w⟩ operation = .error (.fault f) ∧ f.kind = k := by
  rw [ending]
  by_cases hw : w < 0 ∨ 0xFFFF < w
  · rw [if_pos hw]
    constructor
    · rintro ⟨f, hf, -⟩
      cases hf
    · rintro ⟨-, ⟨hle, -⟩, -⟩
      omega
  · rw [if_neg hw]
    cases hrow : Operation.row? (BitVec.ofInt 16 w) with
    | none =>
      have hno := Operation.row?_eq_none_iff.mp hrow
      constructor
      · rintro ⟨f, hf, rfl⟩
        cases hf
        exact absurd rfl hk
      · rintro ⟨operation, ⟨-, hmatch⟩, -⟩
        exact absurd hmatch (hno operation)
    | some operation =>
      have hmatch := Operation.row?_eq_some_iff.mp hrow
      constructor
      · intro h
        exact ⟨operation, ⟨by omega, hmatch⟩, h⟩
      · rintro ⟨other, ⟨-, hother⟩, h⟩
        -- no other row has the word
        rwa [Operation.eq_of_matches hother hmatch] at h

theorem matches_ret_iff {w : Int} :
    ((0 ≤ w ∧ w ≤ 0xFFFF) ∧ Operation.ret.Matches (BitVec.ofInt 16 w)) ↔ w = 0x00EE := by
  constructor
  · rintro ⟨⟨h0, h1⟩, h⟩
    have hvalue := Operation.value_of_plain (o := ⟨BitVec.ofInt 16 w⟩) rfl h
    rw [← value_ofInt h0 h1, hvalue]
    rfl
  · rintro rfl
    decide

theorem matches_call_iff {w : Int} :
    ((0 ≤ w ∧ w ≤ 0xFFFF) ∧ Operation.call.Matches (BitVec.ofInt 16 w)) ↔
      0x2000 ≤ w ∧ w ≤ 0x2FFF := by
  have hrow := Operation.call.matches_iff ⟨BitVec.ofInt 16 w⟩
  simp only [Operation.pattern, Operation.form, Form.fixedLow, Opcode.n1, Nat.mod_one] at hrow
  constructor
  · rintro ⟨⟨h0, h1⟩, h⟩
    have hvalue := value_ofInt h0 h1
    have htop : (Opcode.mk (BitVec.ofInt 16 w)).value / 0x1000 % 0x10 = 2 := (hrow.mp h).1
    omega
  · rintro ⟨h0, h1⟩
    have hvalue := value_ofInt (w := w) (by omega) (by omega)
    have htop : (Opcode.mk (BitVec.ofInt 16 w)).value / 0x1000 % 0x10 = 2 := by omega
    exact ⟨by omega, hrow.mpr ⟨htop, rfl⟩⟩

/-- **How execution ends.** Executing a number ends as the table tells. It is refused as a number
exactly when it has more than sixteen bits, and as a word exactly when it lies in no row; the call
stack underflows exactly at a return from depth zero, and overflows exactly at a call from full
depth. -/
theorem execute_ending (s : State g capacity) (w : Int) :
    (s.execute w).map (fun t ↦ t.pc.toNat) = s.ending w ∧
    ((∃ v, s.execute w = .error (.range (.opcode v))) ↔ w < 0 ∨ 0xFFFF < w) ∧
    ((∃ f, s.execute w = .error (.fault f) ∧ f.kind = .unknownOpcode) ↔
      (0 ≤ w ∧ w ≤ 0xFFFF) ∧ ∀ operation : Operation, ¬operation.Matches (BitVec.ofInt 16 w)) ∧
    ((∃ f, s.execute w = .error (.fault f) ∧ f.kind = .stackUnderflow) ↔
      w = 0x00EE ∧ s.stack.depth = 0) ∧
    ((∃ f, s.execute w = .error (.fault f) ∧ f.kind = .stackOverflow) ↔
      (0x2000 ≤ w ∧ w ≤ 0x2FFF) ∧ s.stack.depth = capacity) := by
  simp only [execute_eq_error_iff]
  refine ⟨s.map_pc_execute w, ending_opcode_iff, ending_unknownOpcode_iff, ?_, ?_⟩
  · rw [ending_fault_iff (by decide), ← matches_ret_iff]
    simp only [endingOf_underflow_iff]
    constructor
    · rintro ⟨operation, hrow, rfl, hdepth⟩
      exact ⟨hrow, hdepth⟩
    · rintro ⟨hrow, hdepth⟩
      exact ⟨.ret, hrow, rfl, hdepth⟩
  · rw [ending_fault_iff (by decide), ← matches_call_iff]
    simp only [endingOf_overflow_iff]
    constructor
    · rintro ⟨operation, hrow, rfl, hdepth⟩
      exact ⟨hrow, hdepth⟩
    · rintro ⟨hrow, hdepth⟩
      exact ⟨.call, hrow, rfl, hdepth⟩

/-- A sprite of a single byte, which lies in memory and is followed by an instruction, cannot be
drawn on a row of `2 ^ 31` pixels. -/
theorem execute_refused_on_long_row :
    let s := State.initial Machine.longRow.geometry Machine.longRow.capacity (Key.ofSeed 0)
    (s.index.toNat + 1 ≤ 4095 ∧ (s.pc.toNat + 2) % 0x1000 ≤ 0xFFD) ∧
      s.execute 0xD001 = .error (.range (.operand .divisor 0x80000000)) := by
  intro s
  have hfailure : s.failure? ⟨0xD001⟩ .draw = some (.range (.operand .divisor 0x80000000)) := by
    decide +kernel
  have hdraw : Operation.draw.Matches (0xD001 : Word) := by decide
  have hexecute := s.execute_of_matches (o := ⟨0xD001⟩) hdraw
  rw [hfailure] at hexecute
  exact ⟨by decide +kernel, hexecute⟩

end State

end ChipEight
