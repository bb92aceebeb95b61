import ChipEight.Execute
import ChipEight.Proofs.CallStack

/-!
# Executing a decoded instruction

An instruction that was decoded from a word has operands that fit, so executing it is simpler than
executing instructions in general. This file takes it apart into three functions of a state, an
opcode and an operation, none of which can fail:

* `State.failure?` is what goes wrong, if anything does;
* `State.nextAddress` is where execution goes on, as a number;
* `State.effect` is what happens to everything else.

`State.executeInstruction_withOperation` puts them together again. Whatever is to be proved of
execution follows from it by looking at one of the three functions, and the case distinction over
all operations is made in this file once.

## The one place where an effect is dropped

`failure?` is asked before `effect` is taken, although the check of the program counter comes last.
That this makes no difference is the content of the normal form: the address that is checked does
not depend on the effect.

## Oversized screens

A screen with a side of `2 ^ 31` pixels or more can be made and cannot be drawn on. This is the only
thing to go wrong with a decoded instruction that is no fault of the program, and
`Geometry.overflow?` is the only place where it is told.
-/

namespace ChipEight

/-! ## Operands that fit -/

theorem fitsSigned_32_of_lt {v : Nat} (h : v < 0x10000) : fitsSigned 32 v = true := by
  rw [fitsSigned, BitVec.toInt_ofInt, beq_iff_eq]
  exact Int.bmod_eq_of_le (by omega) (by omega)

theorem fitsSigned_32_iff {v : Nat} : fitsSigned 32 v = true ↔ v < 0x80000000 := by
  rw [fitsSigned, BitVec.toInt_ofInt, beq_iff_eq, Int.bmod_def]
  split <;> omega

theorem fitsSigned_64_of_lt {v : Nat} (h : v < 0x8000000000000000) : fitsSigned 64 v = true := by
  rw [fitsSigned, BitVec.toInt_ofInt, beq_iff_eq]
  exact Int.bmod_eq_of_le (by omega) (by omega)

theorem wrappedCell_natCast {bits v : Nat} (h : v < 0x10000) :
    wrappedCell bits v = .ok (BitVec.ofNat bits v) := by
  rw [wrappedCell, if_pos (fitsSigned_32_of_lt h), BitVec.ofInt_natCast]

theorem operandCell_natCast {side : Side} {bits v : Nat} (h : v < 0x10000) :
    operandCell side bits v = .ok (BitVec.ofNat bits v) := by
  rw [operandCell, if_pos (fitsSigned_32_of_lt h), BitVec.ofInt_natCast]

theorem exactCell_natCast {v : Nat} (h : v < 0x10000) :
    exactCell 16 v = .ok (BitVec.ofNat 16 v) := by
  have hv : ((BitVec.ofNat 16 v).toNat : Int) = v := by
    rw [BitVec.toNat_ofNat, Nat.mod_eq_of_lt h]
  have hfits : fitsSigned 64 v = true := fitsSigned_64_of_lt (by omega)
  rw [exactCell, BitVec.ofInt_natCast]
  simp only [hfits, hv, Bool.not_true, Bool.false_eq_true, if_false, if_true]

namespace Opcode

theorem n4_lt (o : Opcode) : o.n4 < 0x10 := Nat.mod_lt _ (by decide)

theorem constant_lt (o : Opcode) : o.constant < 0x100 := Nat.mod_lt _ (by decide)

theorem address_lt (o : Opcode) : o.address < 0x1000 := Nat.mod_lt _ (by decide)

theorem operand_withOperation (o : Opcode) (operation : Operation) :
    (o.withOperation operation).operand = .ok (BitVec.ofNat 8 o.constant) := by
  have h := o.constant_lt
  rw [Instruction.operand, withOperation, operandCell_natCast (by omega)]
  rfl

theorem constant_withOperation (o : Opcode) (operation : Operation) :
    (o.withOperation operation).constant = .ok (BitVec.ofNat 8 o.constant) := by
  have h := o.constant_lt
  rw [Instruction.constant, withOperation, wrappedCell_natCast (by omega)]
  rfl

theorem offset_withOperation (o : Opcode) (operation : Operation) :
    (o.withOperation operation).offset = .ok (BitVec.ofNat 16 o.address) := by
  have h := o.address_lt
  rw [Instruction.offset, withOperation, operandCell_natCast (by omega)]
  rfl

theorem exactCell_address (o : Opcode) :
    exactCell 16 o.address = .ok (BitVec.ofNat 16 o.address) :=
  exactCell_natCast (by have := o.address_lt; omega)

theorem beq_constant (o : Opcode) (b : Byte) :
    (b == BitVec.ofNat 8 o.constant) = (b.toNat == o.constant) := by
  rw [Bool.eq_iff_iff, beq_iff_eq, beq_iff_eq, ← BitVec.toNat_inj, BitVec.toNat_ofNat,
    Nat.mod_eq_of_lt o.constant_lt]

/-- The number of bytes that an operation reads or writes where the index register points. -/
def blockLength (o : Opcode) : Operation → Nat
  | .draw => o.n4
  | .decimal => 3
  | .store | .load => o.n2 + 1
  | _ => 0

end Opcode

/-! ## Oversized screens -/

namespace Geometry

/-- The first side of a screen that is no signed 32-bit number long. -/
def oversize? (g : Geometry) : Option Nat :=
  if 0x80000000 ≤ g.width then some g.width
  else if 0x80000000 ≤ g.height then some g.height
  else none

/-- What keeps an operation from being computed on a screen, whatever the state. -/
def overflow? (g : Geometry) : Operation → Option RangeError
  | .draw => g.oversize?.map fun v : Nat ↦ .operand .divisor v
  | _ => none

theorem oversize?_eq_none_iff {g : Geometry} :
    g.oversize? = none ↔ g.width < 0x80000000 ∧ g.height < 0x80000000 := by
  rw [oversize?]
  split
  · simp
    omega
  · split
    · simp
      omega
    · simp
      omega

theorem le_of_oversize? {g : Geometry} {length : Nat} (h : g.oversize? = some length) :
    0x80000000 ≤ length ∧ (length = g.width ∨ length = g.height) := by
  rw [oversize?] at h
  split at h
  · cases h
    exact ⟨by assumption, .inl rfl⟩
  · split at h
    · cases h
      exact ⟨by assumption, .inr rfl⟩
    · cases h

theorem overflow?_of_ne {g : Geometry} {operation : Operation} (h : operation ≠ .draw) :
    g.overflow? operation = none := by
  cases operation with
  | draw => exact absurd rfl h
  | _ => rfl

theorem overflow?_eq_some_iff {g : Geometry} {operation : Operation} {e : RangeError} :
    g.overflow? operation = some e ↔
      operation = .draw ∧ ∃ length : Nat, g.oversize? = some length ∧ e = .operand .divisor length := by
  by_cases h : operation = .draw
  · rw [h, overflow?, Option.map_eq_some_iff]
    simp only [true_and, eq_comm]
  · rw [overflow?_of_ne h]
    simp [h]

theorem overflow?_eq_none_iff {g : Geometry} {operation : Operation} :
    g.overflow? operation = none ↔
      (operation = .draw → g.width < 0x80000000 ∧ g.height < 0x80000000) := by
  by_cases h : operation = .draw
  · rw [h, overflow?, Option.map_eq_none_iff, oversize?_eq_none_iff]
    exact ⟨fun h _ ↦ h, fun h ↦ h rfl⟩
  · exact iff_of_true (overflow?_of_ne h) (absurd · h)

end Geometry

/-! ## Addresses as numbers -/

theorem Word.toNat_address (w : Word) : w.address.toNat = w.toNat % 0x1000 := by
  rw [Word.address, BitVec.toNat_and]
  exact Nat.and_two_pow_sub_one_eq_mod (n := 12) _

theorem Word.address_eq (w : Word) : w.address = BitVec.ofNat 16 (w.toNat % 0x1000) := by
  rw [← Word.toNat_address, BitVec.ofNat_toNat, BitVec.setWidth_eq]

/-- What is wrong with a block that does not lie wholly inside memory. -/
def Memory.outside? (a k : Nat) : Option Cause :=
  if 0 < k ∧ memorySize < a + k then some (.memoryAccess a k) else none

theorem Memory.checkRange_natCast (a k : Nat) :
    Memory.checkRange a k =
      match Memory.outside? a k with
      | some c => .error { cause := c }
      | none => .ok () := by
  have h : (0 < (k : Int) ∧ ((a : Int) < 0 ∨ (memorySize : Int) < (a : Int) + k)) ↔
      0 < k ∧ memorySize < a + k := by
    simp only [memorySize]
    omega
  simp only [Memory.checkRange, Memory.outside?, h]
  split <;> rfl

theorem Memory.checkRange_then {α : Type} (a k : Nat) (t : α) :
    (do Memory.checkRange a k; return t : Except Fault α).mapError Failure.fault =
      match Memory.outside? a k with
      | some c => .error (.fault { cause := c })
      | none => .ok t := by
  rw [checkRange_natCast]
  cases Memory.outside? a k <;> rfl

namespace State

variable {g : Geometry} {capacity : Nat}

theorem advance_ofNat (s : State g capacity) (k : Nat) :
    s.advance (BitVec.ofNat 16 k) =
      { s with pc := BitVec.ofNat 16 ((s.pc.toNat + k) % 0x1000) } := by
  rw [advance, Word.address_eq, BitVec.toNat_add, BitVec.toNat_ofNat]
  congr 2
  omega

theorem proceed_eq (s : State g capacity) :
    s.proceed = { s with pc := BitVec.ofNat 16 ((s.pc.toNat + 2) % 0x1000) } :=
  s.advance_ofNat 2

theorem skipIf_eq (s : State g capacity) (c : Bool) :
    s.skipIf c =
      { s with pc := BitVec.ofNat 16 ((s.pc.toNat + if c then 4 else 2) % 0x1000) } := by
  rw [← advance_ofNat, skipIf]
  cases c <;> rfl

theorem jumpOffset_ofNat (s : State g capacity) (a : Nat) :
    s.jumpOffset (BitVec.ofNat 16 a) =
      { s with pc := BitVec.ofNat 16 ((a + (s.register offsetRegister).toNat) % 0x1000) } := by
  rw [jumpOffset, Word.address_eq, BitVec.toNat_add, BitVec.toNat_ofNat, BitVec.toNat_setWidth]
  congr 2
  omega

theorem jump_address (s : State g capacity) (o : Opcode) :
    s.jump o.address = .ok { s with pc := BitVec.ofNat 16 o.address } := by
  rw [jump, o.exactCell_address]
  rfl

/-! ## The three parts of execution -/

/-- The key that a byte names by its last four bits. -/
def keyNamed (b : Byte) : Fin keyCount := ⟨b.toNat % 16, Nat.mod_lt _ (by decide)⟩

/-- Whether an operation skips the next instruction. -/
def skips (s : State g capacity) (o : Opcode) : Operation → Bool
  | .skipEqualConst => (s.registers.get o.n2).toNat == o.constant
  | .skipUnequalConst => (s.registers.get o.n2).toNat != o.constant
  | .skipEqual => s.registers.get o.n2 == s.registers.get o.n3
  | .skipUnequal => s.registers.get o.n2 != s.registers.get o.n3
  | .skipPressed => s.keys.get (keyNamed (s.registers.get o.n2))
  | .skipReleased => !s.keys.get (keyNamed (s.registers.get o.n2))
  | _ => false

/-- Where execution goes on after an operation. -/
def nextAddress (s : State g capacity) (o : Opcode) : Operation → Nat
  | .jump | .call => o.address
  | .jumpOffset => (o.address + (s.registers.get ⟨0, registerCount_pos⟩).toNat) % 0x1000
  | .ret => ((s.stack.items.getLast?.getD 0).toNat + 2) % 0x1000
  | .waitKey =>
    if true ∈ s.keys then (s.pc.toNat + 2) % 0x1000 else s.pc.toNat
  | operation => (s.pc.toNat + if s.skips o operation then 4 else 2) % 0x1000

/-- What keeps an operation from taking effect. -/
def obstacle? (s : State g capacity) (o : Opcode) : Operation → Option Cause
  | .ret => if s.stack.depth = 0 then some .stackUnderflow else none
  | .call => if s.stack.depth = capacity then some (.stackOverflow capacity) else none
  | operation => Memory.outside? s.index.toNat (o.blockLength operation)

/-- What goes wrong with an operation: it cannot take effect, it cannot be computed on this screen,
or no whole instruction stands where execution would go on. -/
def failure? (s : State g capacity) (o : Opcode) (operation : Operation) : Option Failure :=
  match s.obstacle? o operation with
  | some c => some (.fault { cause := c })
  | none =>
    match g.overflow? operation with
    | some e => some (.range e)
    | none =>
      match Memory.outside? (s.nextAddress o operation) 2 with
      | some c => some (.fault { cause := c })
      | none => none

/-- The sprite that two registers place on the screen. -/
def spriteAt (s : State g capacity) (x y : Fin registerCount) (rows : Nat) : Sprite where
  address := s.index.toNat
  rows
  left := (s.registers.get x).toNat % g.width
  top := (s.registers.get y).toNat % g.height

/-- What an operation does, the program counter aside. -/
def effect (s : State g capacity) (o : Opcode) : Operation → State g capacity
  | .clearScreen => s.clearScreen
  | .ret => { s with stack := s.stack.popped }
  | .call => { s with stack := s.stack.pushed s.pc.address }
  | .jump | .jumpOffset | .skipEqualConst | .skipUnequalConst | .skipEqual | .skipUnequal
  | .skipPressed | .skipReleased => s
  | .loadConst => s.loadConst o.n2 (BitVec.ofNat 8 o.constant)
  | .addConst => s.addConst o.n2 (BitVec.ofNat 8 o.constant)
  | .copy => s.arithmetic .copy o.n2 o.n3
  | .or => s.arithmetic .or o.n2 o.n3
  | .and => s.arithmetic .and o.n2 o.n3
  | .xor => s.arithmetic .xor o.n2 o.n3
  | .add => s.arithmetic .add o.n2 o.n3
  | .sub => s.arithmetic .sub o.n2 o.n3
  | .shiftRight => s.arithmetic .shiftRight o.n2 o.n3
  | .subFrom => s.arithmetic .subFrom o.n2 o.n3
  | .shiftLeft => s.arithmetic .shiftLeft o.n2 o.n3
  | .setIndex => { s with index := BitVec.ofNat 16 o.address }
  | .random => s.random o.n2 (BitVec.ofNat 8 o.constant)
  | .draw =>
    let mask := (s.spriteAt o.n2 o.n3 o.n4).mask s.memory
    { s.setFlag (s.screen.grid.collides mask) with
      screen := Screen.ofGrid (s.screen.grid.flip mask) }
  | .readDelay => s.readDelay o.n2
  | .waitKey => s.waitKey o.n2
  | .setDelay => s.setDelay o.n2
  | .setSound => s.setSound o.n2
  | .addIndex => s.addIndex o.n2
  | .glyph => s.glyph o.n2
  | .decimal =>
    { s with memory := s.memory.write s.index.toNat (decimalDigits (s.register o.n2)) }
  | .store =>
    { s with memory := s.memory.write s.index.toNat (s.registers.toList.take (o.n2 + 1)) }
  | .load =>
    { s with
      registers := Vector.ofFn fun i ↦
        if i ≤ o.n2 then s.memory.read (s.index.toNat + i) else s.register i }

theorem sprite_eq (s : State g capacity) (x y : Fin registerCount) (rows : Int) :
    s.sprite x y rows =
      match g.oversize? with
      | some v => .error (.operand .divisor v)
      | none =>
        if fitsSigned 32 rows then .ok (s.spriteAt x y rows.toNat)
        else .error (.operand .right rows) := by
  rw [sprite, coordinate, coordinate, Geometry.oversize?]
  by_cases hwidth : 0x80000000 ≤ g.width
  · rw [if_neg (by rw [fitsSigned_32_iff]; omega), if_pos hwidth]
    rfl
  rw [if_pos (fitsSigned_32_iff.mpr (by omega)), if_neg hwidth]
  by_cases hheight : 0x80000000 ≤ g.height
  · rw [if_neg (by rw [fitsSigned_32_iff]; omega), if_pos hheight]
    rfl
  rw [if_pos (fitsSigned_32_iff.mpr (by omega)), if_neg hheight]
  cases fitsSigned 32 rows <;> rfl

def next (s : State g capacity) (o : Opcode) (operation : Operation) : State g capacity :=
  { s.effect o operation with pc := BitVec.ofNat 16 (s.nextAddress o operation) }

theorem lowestKey?_isSome_iff {s : State g capacity} :
    s.lowestKey?.isSome = true ↔ true ∈ s.keys := by
  rw [lowestKey?, List.find?_isSome, Vector.mem_iff_getElem]
  constructor
  · rintro ⟨k, -, hk⟩
    exact ⟨k, k.isLt, hk⟩
  · rintro ⟨k, hlt, hk⟩
    exact ⟨⟨k, hlt⟩, List.mem_finRange _, hk⟩

theorem nextAddress_waitKey (s : State g capacity) (o : Opcode) :
    s.nextAddress o .waitKey =
      if s.lowestKey?.isSome then (s.pc.toNat + 2) % 0x1000 else s.pc.toNat := by
  simp only [nextAddress, lowestKey?_isSome_iff]

theorem nextAddress_lt (s : State g capacity) (o : Opcode) (operation : Operation) :
    s.nextAddress o operation < 0x10000 := by
  have ha := o.address_lt
  have hpc : s.pc.toNat < 0x10000 := s.pc.isLt
  cases operation <;> simp only [nextAddress] <;> first | omega | split <;> omega

theorem toNat_pc_next (s : State g capacity) (o : Opcode) (operation : Operation) :
    (s.next o operation).pc.toNat = s.nextAddress o operation := by
  rw [next, BitVec.toNat_ofNat, Nat.mod_eq_of_lt (s.nextAddress_lt o operation)]

/-! ## What few operations change -/

/-- Waiting for a key changes registers and the program counter at most. -/
theorem waitKey_eq (s : State g capacity) (x : Fin registerCount) :
    s.waitKey x =
      { s with registers := (s.waitKey x).registers, pc := (s.waitKey x).pc } := by
  rw [waitKey]
  cases s.lowestKey? <;> rfl

/-- An effect told field by field. Registers and the program counter are what they are; of
everything else, each field is changed by few operations. -/
theorem effect_eq (s : State g capacity) (o : Opcode) (operation : Operation) :
    s.effect o operation =
      { registers := (s.effect o operation).registers
        pc := (s.effect o operation).pc
        keys := s.keys
        rng :=
          match operation with
          | .random => s.rng.next
          | _ => s.rng
        memory :=
          match operation with
          | .decimal => s.memory.write s.index.toNat (decimalDigits (s.register o.n2))
          | .store => s.memory.write s.index.toNat (s.registers.toList.take (o.n2 + 1))
          | _ => s.memory
        stack :=
          match operation with
          | .ret => s.stack.popped
          | .call => s.stack.pushed s.pc.address
          | _ => s.stack
        index :=
          match operation with
          | .setIndex => BitVec.ofNat 16 o.address
          | .addIndex => BitVec.ofNat 16 ((s.index.toNat + (s.register o.n2).toNat) % 0x1000)
          | .glyph => BitVec.ofNat 16 (fontStart + (s.register o.n2).toNat % 16 * glyphSize)
          | _ => s.index
        screen :=
          match operation with
          | .clearScreen => Screen.blank
          | .draw => Screen.ofGrid (s.screen.grid.flip ((s.spriteAt o.n2 o.n3 o.n4).mask s.memory))
          | _ => s.screen
        delayTimer :=
          match operation with
          | .setDelay => s.register o.n2
          | _ => s.delayTimer
        soundTimer :=
          match operation with
          | .setSound => s.register o.n2
          | _ => s.soundTimer } := by
  cases operation with
  | waitKey => exact s.waitKey_eq o.n2
  | load =>
    -- a comparison of both sides would compute the new registers
    rw [effect]
  | _ => rfl

theorem rng_effect (s : State g capacity) (o : Opcode) (operation : Operation) :
    (s.effect o operation).rng =
      match operation with
      | .random => s.rng.next
      | _ => s.rng :=
  congrArg rng (s.effect_eq o operation)

/-- Two operations write memory, both where the index register points. -/
theorem memory_effect (s : State g capacity) (o : Opcode) (operation : Operation) :
    (s.effect o operation).memory =
      match operation with
      | .decimal => s.memory.write s.index.toNat (decimalDigits (s.register o.n2))
      | .store => s.memory.write s.index.toNat (s.registers.toList.take (o.n2 + 1))
      | _ => s.memory :=
  congrArg memory (s.effect_eq o operation)

theorem stack_effect (s : State g capacity) (o : Opcode) (operation : Operation) :
    (s.effect o operation).stack =
      match operation with
      | .ret => s.stack.popped
      | .call => s.stack.pushed s.pc.address
      | _ => s.stack :=
  congrArg stack (s.effect_eq o operation)

theorem index_effect (s : State g capacity) (o : Opcode) (operation : Operation) :
    (s.effect o operation).index =
      match operation with
      | .setIndex => BitVec.ofNat 16 o.address
      | .addIndex => BitVec.ofNat 16 ((s.index.toNat + (s.register o.n2).toNat) % 0x1000)
      | .glyph => BitVec.ofNat 16 (fontStart + (s.register o.n2).toNat % 16 * glyphSize)
      | _ => s.index :=
  congrArg index (s.effect_eq o operation)

theorem screen_effect (s : State g capacity) (o : Opcode) (operation : Operation) :
    (s.effect o operation).screen =
      match operation with
      | .clearScreen => Screen.blank
      | .draw => Screen.ofGrid (s.screen.grid.flip ((s.spriteAt o.n2 o.n3 o.n4).mask s.memory))
      | _ => s.screen :=
  congrArg screen (s.effect_eq o operation)

theorem delayTimer_effect (s : State g capacity) (o : Opcode) (operation : Operation) :
    (s.effect o operation).delayTimer =
      match operation with
      | .setDelay => s.register o.n2
      | _ => s.delayTimer :=
  congrArg delayTimer (s.effect_eq o operation)

theorem soundTimer_effect (s : State g capacity) (o : Opcode) (operation : Operation) :
    (s.effect o operation).soundTimer =
      match operation with
      | .setSound => s.register o.n2
      | _ => s.soundTimer :=
  congrArg soundTimer (s.effect_eq o operation)

theorem keys_effect (s : State g capacity) (o : Opcode) (operation : Operation) :
    (s.effect o operation).keys = s.keys := by
  rw [effect_eq]

/-! ## The normal form -/

theorem perform_withOperation (s : State g capacity) (o : Opcode) (operation : Operation) :
    s.perform (o.withOperation operation) =
      match s.obstacle? o operation with
      | some c => .error (.fault { cause := c })
      | none =>
        match g.overflow? operation with
        | some e => .error (.range e)
        | none => .ok (s.next o operation) := by
  cases operation with
  | clearScreen | copy | or | and | xor | add | sub | subFrom | shiftLeft | shiftRight | readDelay
  | setDelay | setSound | addIndex | glyph =>
    show Except.ok _ = Except.ok _
    simp only [clearScreen, arithmetic, readDelay, setDelay, setSound, addIndex, glyph, proceed_eq]
    rfl
  | loadConst | addConst | random =>
    show Except.map _ _ = Except.ok _
    simp only [o.constant_withOperation, o.operand_withOperation, Except.map, loadConst, addConst,
      random, proceed_eq]
    rfl
  | skipEqual | skipUnequal | skipPressed | skipReleased =>
    show Except.ok (s.skipIf _) = Except.ok _
    rw [skipIf_eq]
    rfl
  | skipEqualConst | skipUnequalConst =>
    show Except.map _ _ = Except.ok _
    simp only [o.operand_withOperation, Except.map, skipIf_eq, bne, o.beq_constant]
    rfl
  | jump => exact s.jump_address o
  | jumpOffset =>
    show Except.map _ _ = Except.ok _
    rw [o.offset_withOperation, Except.map, jumpOffset_ofNat]
    rfl
  | setIndex =>
    show s.setIndex o.address = Except.ok _
    rw [setIndex, o.exactCell_address]
    show Except.ok (proceed _) = Except.ok _
    rw [proceed_eq]
    rfl
  | call =>
    show s.call o.address = _
    rw [call, CallStack.pushAddress, BitVec.setWidth_eq, CallStack.push_eq]
    simp only [obstacle?]
    split
    · rfl
    · exact jump_address { s with stack := s.stack.pushed s.pc.address } o
  | ret =>
    show s.ret = _
    rw [ret, CallStack.pop_eq]
    simp only [obstacle?]
    split
    · rfl
    · show Except.ok (proceed _) = Except.ok (s.next o .ret)
      rw [proceed_eq, next, nextAddress, ← CallStack.top_eq]
      rfl
  | waitKey =>
    show Except.ok (s.waitKey _) = Except.ok _
    simp only [next, effect, nextAddress_waitKey, waitKey]
    cases s.lowestKey? with
    | none => simp
    | some k =>
      show Except.ok (proceed _) = Except.ok _
      rw [proceed_eq]
      rfl
  | decimal =>
    show (s.storeDecimal _).mapError _ = _
    rw [storeDecimal, proceed_eq]
    exact Memory.checkRange_then s.index.toNat 3 _
  | store =>
    show (s.store o.n2).mapError _ = _
    rw [store, proceed_eq]
    exact Memory.checkRange_then s.index.toNat (o.n2 + 1) _
  | load =>
    show (s.load o.n2).mapError _ = _
    rw [load, proceed_eq]
    -- the new registers must not be computed when the two sides are compared
    simp only [obstacle?, Opcode.blockLength, next, effect]
    exact Memory.checkRange_then s.index.toNat (o.n2 + 1) _
  | draw =>
    show s.draw o.n2 o.n3 o.n4 = _
    rw [draw, Memory.checkRange_natCast, sprite_eq,
      fitsSigned_32_of_lt (by have := o.n4_lt; omega)]
    simp only [obstacle?, Opcode.blockLength, Geometry.overflow?]
    cases Memory.outside? s.index.toNat o.n4 with
    | some c => rfl
    | none =>
      cases g.oversize? with
      | some v => rfl
      | none =>
        show Except.ok (proceed _) = Except.ok _
        rw [proceed_eq]
        rfl

theorem checkPc_eq (s : State g capacity) :
    s.checkPc =
      match Memory.outside? s.pc.toNat 2 with
      | some c => .error { cause := c }
      | none => .ok () :=
  Memory.checkRange_natCast s.pc.toNat 2

/-- **The normal form of execution.** A decoded instruction reports the first thing that goes wrong
with it, or it leaves the next state. -/
theorem executeInstruction_withOperation (s : State g capacity) (o : Opcode)
    (operation : Operation) :
    s.executeInstruction (o.withOperation operation) =
      match s.failure? o operation with
      | some e => .error e
      | none => .ok (s.next o operation) := by
  rw [executeInstruction, perform_withOperation, failure?]
  cases s.obstacle? o operation with
  | some c => rfl
  | none =>
    cases g.overflow? operation with
    | some e => rfl
    | none =>
      -- the effect has been taken, and what is checked is the address alone
      show (do (s.next o operation).checkPc.mapError Failure.fault; return s.next o operation) = _
      rw [checkPc_eq, toNat_pc_next]
      dsimp only
      cases Memory.outside? (s.nextAddress o operation) 2 <;> rfl

end State

end ChipEight
