import ChipEight.Proofs.Frame

/-!
# Reckoning with registers

Eleven operations reckon with the numbers in registers: nine on two registers, one on a register and
a constant, and one on a register and the index register. What each of them writes is told here by
a `Reckoning`, in plain numbers, and `State.Reckoned` says that this was written and nothing else.

## The order of writing

An operation reads its operands, then writes its result, then its flag. So it makes no difference
whether the registers of the operands coincide, with each other or with the flag register; but a
result that is meant for the flag register is lost, because the flag is written over it.
`State.reckoned_arithmetic` is the one place where the two writes are looked at.
-/

namespace ChipEight

variable {g : Geometry} {capacity : Nat}

/-- What is written when an operation reckons with registers. -/
structure Reckoning where
  /-- The result, for the first register, if there is one. -/
  result : Option Nat
  /-- The flag, for the flag register, if there is one. -/
  flag : Option Bool
  /-- What the index register holds afterwards. -/
  index : Nat
deriving DecidableEq, Repr

/-- The reckoning of an operation with the numbers `a` and `b` in its registers, its constant `c`
and the number `i` in the index register. -/
def Operation.reckoning? (a b c i : Nat) : Operation → Option Reckoning
  | .addConst => some ⟨some ((a + c) % 0x100), none, i⟩
  | .copy => some ⟨some b, none, i⟩
  | .or => some ⟨some (a ||| b), none, i⟩
  | .and => some ⟨some (a &&& b), none, i⟩
  | .xor => some ⟨some (a ^^^ b), none, i⟩
  | .add => some ⟨some ((a + b) % 0x100), some (decide (0xFF < a + b)), i⟩
  | .sub => some ⟨some ((0x100 + a - b) % 0x100), some (decide (b ≤ a)), i⟩
  | .shiftRight => some ⟨some (a / 2), some (decide (a % 2 = 1)), i⟩
  | .subFrom => some ⟨some ((0x100 + b - a) % 0x100), some (decide (a ≤ b)), i⟩
  | .shiftLeft => some ⟨some (2 * a % 0x100), some (decide (0x80 ≤ a)), i⟩
  | .addIndex => some ⟨none, some (decide (0xFFF < i + a)), (i + a) % 0x1000⟩
  | _ => none

/-! ## Arithmetic in numbers -/

namespace Arithmetic

def reckoning (r : Arithmetic) (i : Nat) : Reckoning := ⟨some r.value.toNat, r.flag, i⟩

theorem reckoning_add (a b : Byte) (i : Nat) :
    (add a b).reckoning i =
      ⟨some ((a.toNat + b.toNat) % 0x100), some (decide (0xFF < a.toNat + b.toNat)), i⟩ := by
  rw [reckoning, add, BitVec.toNat_add]

theorem reckoning_sub (a b : Byte) (i : Nat) :
    (sub a b).reckoning i =
      ⟨some ((0x100 + a.toNat - b.toNat) % 0x100), some (decide (b.toNat ≤ a.toNat)), i⟩ := by
  have hb : b.toNat < 0x100 := b.isLt
  have hvalue : (a - b).toNat = (0x100 + a.toNat - b.toNat) % 0x100 := by
    rw [BitVec.toNat_sub]
    omega
  rw [reckoning, sub, hvalue]
  rfl

theorem reckoning_shiftRight (a b : Byte) (i : Nat) :
    (shiftRight a b).reckoning i = ⟨some (a.toNat / 2), some (decide (a.toNat % 2 = 1)), i⟩ := by
  rw [reckoning, shiftRight, BitVec.toNat_ushiftRight, Nat.shiftRight_eq_div_pow, BitVec.getLsbD,
    Nat.testBit_zero]

theorem reckoning_shiftLeft (a b : Byte) (i : Nat) :
    (shiftLeft a b).reckoning i =
      ⟨some (2 * a.toNat % 0x100), some (decide (0x80 ≤ a.toNat)), i⟩ := by
  rw [reckoning, shiftLeft, BitVec.toNat_shiftLeft, Nat.shiftLeft_eq, Nat.mul_comm,
    ← BitVec.msb_eq_getMsbD_zero, BitVec.msb_eq_decide]

end Arithmetic

/-- The function of two bytes that an operation applies. -/
def Operation.arithmetic? : Operation → Option (Byte → Byte → Arithmetic)
  | .copy => some .copy
  | .or => some .or
  | .and => some .and
  | .xor => some .xor
  | .add => some .add
  | .sub => some .sub
  | .shiftRight => some .shiftRight
  | .subFrom => some .subFrom
  | .shiftLeft => some .shiftLeft
  | _ => none

theorem Operation.reckoning?_of_arithmetic? {operation : Operation}
    {f : Byte → Byte → Arithmetic} (h : operation.arithmetic? = some f) (a b : Byte) (c i : Nat) :
    operation.reckoning? a.toNat b.toNat c i = some ((f a b).reckoning i) := by
  cases operation with
  | copy | or | and | xor =>
    obtain rfl := Option.some.inj h
    rfl
  | add =>
    obtain rfl := Option.some.inj h
    exact congrArg some (Arithmetic.reckoning_add a b i).symm
  | sub =>
    obtain rfl := Option.some.inj h
    exact congrArg some (Arithmetic.reckoning_sub a b i).symm
  | subFrom =>
    obtain rfl := Option.some.inj h
    exact congrArg some (Arithmetic.reckoning_sub b a i).symm
  | shiftRight =>
    obtain rfl := Option.some.inj h
    exact congrArg some (Arithmetic.reckoning_shiftRight a b i).symm
  | shiftLeft =>
    obtain rfl := Option.some.inj h
    exact congrArg some (Arithmetic.reckoning_shiftLeft a b i).symm
  | _ => cases h

/-- Nine of the eleven operations apply a function of two bytes. -/
theorem Operation.cases_of_reckoning? {operation : Operation} {a b c i : Nat} {k : Reckoning}
    (h : operation.reckoning? a b c i = some k) :
    (∃ f, operation.arithmetic? = some f) ∨ operation = .addConst ∨ operation = .addIndex := by
  cases operation with
  | addConst => exact .inr (.inl rfl)
  | addIndex => exact .inr (.inr rfl)
  | copy | or | and | xor | add | sub | shiftRight | subFrom | shiftLeft => exact .inl ⟨_, rfl⟩
  | _ => cases h

namespace State

/-! ## What has been written -/

/-- That one state comes from another by writing a reckoning, with its result in the given register,
and moving on. -/
structure Reckoned (s : State g capacity) (x : Fin registerCount) (k : Reckoning)
    (t : State g capacity) : Prop where
  /-- The flag register holds the flag, even where the result was meant for it. -/
  flag_eq : ∀ flag ∈ k.flag, (t.register flagRegister).toNat = flag.toNat
  /-- The register holds the result, unless the flag has been written over it. -/
  result_eq : ∀ v ∈ k.result, k.flag = none ∨ x ≠ flagRegister → (t.register x).toNat = v
  /-- No other register is written. -/
  register_eq : ∀ r, k.result = none ∨ r ≠ x → k.flag = none ∨ r ≠ flagRegister →
    t.register r = s.register r
  /-- The index register. -/
  index_eq : t.index.toNat = k.index
  /-- Nothing changes but registers, the index register and the program counter. -/
  eq_with : t = { s with
    registers := t.registers
    index := t.index
    pc := BitVec.ofNat 16 ((s.pc.toNat + 2) % 0x1000) }

theorem toNat_register_setFlag (s : State g capacity) (flag : Bool) :
    ((s.setFlag flag).register flagRegister).toNat = flag.toNat := by
  rw [register_setFlag]
  cases flag <;> rfl

theorem reckoned_setRegister (s : State g capacity) (x : Fin registerCount) (v : Byte) :
    s.Reckoned x ⟨some v.toNat, none, s.index.toNat⟩ (s.setRegister x v).proceed where
  flag_eq _ h := nomatch h
  result_eq w h _ := by
    obtain rfl := Option.some.inj h
    exact congrArg BitVec.toNat (s.register_setRegister x v)
  register_eq r hx _ := s.register_setRegister_of_ne (hx.resolve_left (Option.some_ne_none _)) v
  index_eq := rfl
  eq_with := proceed_eq _

theorem reckoned_arithmetic (s : State g capacity) (f : Byte → Byte → Arithmetic)
    (x y : Fin registerCount) :
    s.Reckoned x ((f (s.register x) (s.register y)).reckoning s.index.toNat)
      (s.arithmetic f x y) := by
  rw [arithmetic]
  generalize f (s.register x) (s.register y) = r
  obtain ⟨v, _ | flag⟩ := r
  · exact s.reckoned_setRegister x v
  · exact {
      -- the flag is written last, so it stays even where it overwrites the result
      flag_eq := by
        intro _ h
        obtain rfl := Option.some.inj h
        exact toNat_register_setFlag _ flag
      result_eq := by
        intro w h hx
        obtain rfl := Option.some.inj h
        have hne : x ≠ flagRegister := hx.resolve_left (Option.some_ne_none _)
        exact congrArg BitVec.toNat
          ((register_setFlag_of_ne _ hne flag).trans (s.register_setRegister x v))
      register_eq := by
        intro r hx hflag
        have hrx : r ≠ x := hx.resolve_left (Option.some_ne_none _)
        have hne : r ≠ flagRegister := hflag.resolve_left (Option.some_ne_none _)
        exact (register_setFlag_of_ne _ hne flag).trans (s.register_setRegister_of_ne hrx v)
      index_eq := rfl
      eq_with := proceed_eq _ }

theorem reckoned_addIndex (s : State g capacity) (x : Fin registerCount) :
    s.Reckoned x
      ⟨none, some (decide (0xFFF < s.index.toNat + (s.register x).toNat)),
        (s.index.toNat + (s.register x).toNat) % 0x1000⟩ (s.addIndex x) where
  flag_eq _ h := by
    obtain rfl := Option.some.inj h
    exact s.toNat_register_setFlag _
  result_eq _ h := nomatch h
  register_eq r _ hflag :=
    s.register_setFlag_of_ne (hflag.resolve_left (Option.some_ne_none _)) _
  index_eq := by
    refine (BitVec.toNat_ofNat ..).trans (Nat.mod_eq_of_lt ?_)
    omega
  eq_with := proceed_eq _

/-! ## Execution -/

theorem effect_of_arithmetic? (s : State g capacity) (o : Opcode) {operation : Operation}
    {f : Byte → Byte → Arithmetic} (h : operation.arithmetic? = some f) :
    s.effect o operation = s.arithmetic f o.n2 o.n3 := by
  cases operation with
  | copy | or | and | xor | add | sub | shiftRight | subFrom | shiftLeft =>
    obtain rfl := Option.some.inj h
    rfl
  | _ => cases h

theorem nextAddress_of_reckoning? (s : State g capacity) (o : Opcode) {operation : Operation}
    {a b c i : Nat} {k : Reckoning} (h : operation.reckoning? a b c i = some k) :
    s.obstacle? o operation = none ∧ s.nextAddress o operation = (s.pc.toNat + 2) % 0x1000 := by
  have hempty : Memory.outside? s.index.toNat 0 = none :=
    Memory.outside?_eq_none.mpr fun hpos ↦ absurd hpos (Nat.lt_irrefl 0)
  obtain ⟨f, hf⟩ | rfl | rfl := Operation.cases_of_reckoning? h
  · cases operation <;> first | exact ⟨hempty, rfl⟩ | cases hf
  · exact ⟨hempty, rfl⟩
  · exact ⟨hempty, rfl⟩

theorem reckoned_effect (s : State g capacity) (o : Opcode) {operation : Operation} {k : Reckoning}
    (h : operation.reckoning? (s.register o.n2).toNat (s.register o.n3).toNat o.constant
      s.index.toNat = some k) :
    s.Reckoned o.n2 k (s.effect o operation) := by
  obtain ⟨f, hf⟩ | rfl | rfl := Operation.cases_of_reckoning? h
  · rw [Operation.reckoning?_of_arithmetic? hf] at h
    obtain rfl := Option.some.inj h
    rw [s.effect_of_arithmetic? o hf]
    exact s.reckoned_arithmetic f o.n2 o.n3
  · obtain rfl := Option.some.inj h
    have hsum : (s.register o.n2 + BitVec.ofNat 8 o.constant).toNat =
        ((s.register o.n2).toNat + o.constant) % 0x100 := by
      rw [BitVec.toNat_add, BitVec.toNat_ofNat]
      exact Nat.add_mod_mod ..
    rw [← hsum]
    exact s.reckoned_setRegister o.n2 _
  · obtain rfl := Option.some.inj h
    exact s.reckoned_addIndex o.n2

theorem reckoned_next (s : State g capacity) (o : Opcode) {operation : Operation} {k : Reckoning}
    (h : operation.reckoning? (s.register o.n2).toNat (s.register o.n3).toNat o.constant
      s.index.toNat = some k) :
    s.Reckoned o.n2 k (s.next o operation) := by
  have heffect := s.reckoned_effect o h
  have hpc : (s.effect o operation).pc = BitVec.ofNat 16 (s.nextAddress o operation) := by
    rw [(s.nextAddress_of_reckoning? o h).2]
    exact congrArg pc heffect.eq_with
  rwa [next, ← hpc]

theorem exists_execute_of_reckoning? {s : State g capacity} {o : Opcode} {operation : Operation}
    {a b c i : Nat} {k : Reckoning} (hrow : operation.Matches o.word)
    (h : operation.reckoning? a b c i = some k) :
    (∃ t, s.execute o.value = .ok t) ↔ (s.pc.toNat + 2) % 0x1000 + 2 ≤ memorySize := by
  obtain ⟨hobstacle, hnext⟩ := s.nextAddress_of_reckoning? o h
  have hoverflow : g.overflow? operation = none := by
    apply Geometry.overflow?_of_ne
    rintro rfl
    cases h
  rw [exists_execute_iff hrow, hnext]
  simp only [hobstacle, hoverflow, true_and]

theorem reckoned_of_execute {s t : State g capacity} {o : Opcode} {operation : Operation}
    {k : Reckoning} (hrow : operation.Matches o.word)
    (h : operation.reckoning? (s.register o.n2).toNat (s.register o.n3).toNat o.constant
      s.index.toNat = some k) (ht : s.execute o.value = .ok t) :
    s.Reckoned o.n2 k t := by
  obtain ⟨-, rfl⟩ := (execute_eq_ok_iff hrow).mp ht
  exact s.reckoned_next o h

/-! ## Adding and taking away -/

theorem add_of_sub {a b : Nat} (ha : a < 0x100) (hb : b < 0x100) :
    ((0x100 + a - b) % 0x100 + b) % 0x100 = a ∧
      decide (0xFF < (0x100 + a - b) % 0x100 + b) = !decide (b ≤ a) := by
  refine ⟨by omega, ?_⟩
  rw [← decide_not, decide_eq_decide]
  omega

theorem sub_of_add {a b : Nat} (ha : a < 0x100) (hb : b < 0x100) :
    (0x100 + (a + b) % 0x100 - b) % 0x100 = a ∧
      decide (b ≤ (a + b) % 0x100) = !decide (0xFF < a + b) := by
  refine ⟨by omega, ?_⟩
  rw [← decide_not, decide_eq_decide]
  omega

/-- If the second of two results is what the register held at first, and the second flag the
opposite of the first, nothing but the flag tells that anything was done. -/
theorem Reckoned.undone {s t u : State g capacity} {x : Fin registerCount} {v i j : Nat}
    {flag : Bool} (hx : x ≠ flagRegister) (ht : s.Reckoned x ⟨some v, some flag, i⟩ t)
    (hu : t.Reckoned x ⟨some (s.register x).toNat, some !flag, j⟩ u) :
    (∀ r, r ≠ flagRegister → u.register r = s.register r) ∧
      (t.register flagRegister).toNat + (u.register flagRegister).toNat = 1 := by
  constructor
  · intro r hr
    by_cases hrx : r = x
    · subst hrx
      exact BitVec.eq_of_toNat_eq (hu.result_eq _ rfl (.inr hx))
    · rw [hu.register_eq r (.inr hrx) (.inr hr), ht.register_eq r (.inr hrx) (.inr hr)]
  · rw [ht.flag_eq _ rfl, hu.flag_eq _ rfl]
    cases flag <;> rfl

/-- **Reckoning is exact.** Whatever registers an operation names, it is executed where a whole
instruction follows, and it writes its reckoning and nothing else. Between three different
registers, taking away and adding cancel each other, and the second flag is the opposite of the
first. -/
theorem reckoning_exact (s : State g capacity) :
    (∀ (o : Opcode) (operation : Operation) (k : Reckoning), operation.Matches o.word →
      operation.reckoning? (s.register o.n2).toNat (s.register o.n3).toNat o.constant
        s.index.toNat = some k →
      ((∃ t, s.execute o.value = .ok t) ↔ (s.pc.toNat + 2) % 0x1000 + 2 ≤ memorySize) ∧
        ∀ t, s.execute o.value = .ok t → s.Reckoned o.n2 k t) ∧
    ∀ (o o' : Opcode) (t u : State g capacity),
      Operation.sub.Matches o.word ∧ Operation.add.Matches o'.word ∨
        Operation.add.Matches o.word ∧ Operation.sub.Matches o'.word →
      o'.n2 = o.n2 → o'.n3 = o.n3 →
      o.n2 ≠ o.n3 → o.n2 ≠ flagRegister → o.n3 ≠ flagRegister →
      s.execute o.value = .ok t → t.execute o'.value = .ok u →
      (∀ r, r ≠ flagRegister → u.register r = s.register r) ∧
        (t.register flagRegister).toNat + (u.register flagRegister).toNat = 1 := by
  constructor
  · intro o operation k hrow h
    refine ⟨exists_execute_of_reckoning? hrow h, ?_⟩
    intro t ht
    exact reckoned_of_execute hrow h ht
  intro o o' t u hrows hx' hy' hxy hx hy ht hu
  have ha : (s.register o.n2).toNat < 0x100 := BitVec.isLt _
  have hb : (s.register o.n3).toNat < 0x100 := BitVec.isLt _
  rcases hrows with ⟨hsub, hadd⟩ | ⟨hadd, hsub⟩
  · have hfirst := reckoned_of_execute hsub rfl ht
    have hsecond := reckoned_of_execute hadd rfl hu
    obtain ⟨hvalue, hflag⟩ := add_of_sub ha hb
    rw [hx', hy', hfirst.result_eq _ rfl (.inr hx),
      hfirst.register_eq o.n3 (.inr hxy.symm) (.inr hy), hvalue, hflag] at hsecond
    exact hfirst.undone hx hsecond
  · have hfirst := reckoned_of_execute hadd rfl ht
    have hsecond := reckoned_of_execute hsub rfl hu
    obtain ⟨hvalue, hflag⟩ := sub_of_add ha hb
    rw [hx', hy', hfirst.result_eq _ rfl (.inr hx),
      hfirst.register_eq o.n3 (.inr hxy.symm) (.inr hy), hvalue, hflag] at hsecond
    exact hfirst.undone hx hsecond

/-- The flag register is added to itself, and only the carry remains. Another register borrows, and
gets back what it had with a carry. -/
theorem reckoning_exact_of_flag_register :
    let s : State ⟨1, 1, Nat.succ_pos 0, Nat.succ_pos 0⟩ 0 :=
      { State.initial ⟨1, 1, Nat.succ_pos 0, Nat.succ_pos 0⟩ 0 ⟨0, 0⟩ with
        registers := (Vector.replicate registerCount 0x90).set 1 0x10 }
    (∃ t, s.execute (Opcode.mk 0x8FF4).value = .ok t ∧
      s.Reckoned flagRegister ⟨some 0x20, some true, 0⟩ t ∧ (t.register flagRegister).toNat = 1) ∧
    ∃ t u, s.execute (Opcode.mk 0x8125).value = .ok t ∧
      t.execute (Opcode.mk 0x8124).value = .ok u ∧ (t.register flagRegister).toNat = 0 ∧
      (u.register 1).toNat = 0x10 ∧
      (t.register flagRegister).toNat + (u.register flagRegister).toNat = 1 := by
  intro s
  obtain ⟨hexact, hundone⟩ := s.reckoning_exact
  constructor
  · obtain ⟨hok, hreckoned⟩ :=
      hexact ⟨0x8FF4⟩ .add ⟨some 0x20, some true, 0⟩ (by decide) (by decide +kernel)
    obtain ⟨t, ht⟩ := hok.mpr (by decide)
    exact ⟨t, ht, hreckoned t ht, (hreckoned t ht).flag_eq true rfl⟩
  · obtain ⟨hok, hreckoned⟩ :=
      hexact ⟨0x8125⟩ .sub ⟨some 0x80, some false, 0⟩ (by decide) (by decide +kernel)
    obtain ⟨t, ht⟩ := hok.mpr (by decide)
    have hpc : t.pc = 0x202 := congrArg pc (hreckoned t ht).eq_with
    have hfits : (t.pc.toNat + 2) % 0x1000 + 2 ≤ memorySize := by
      rw [hpc]
      decide
    obtain ⟨u, hu⟩ := (t.reckoning_exact.1 ⟨0x8124⟩ .add _ (by decide) rfl).1.mpr hfits
    obtain ⟨hregisters, hflags⟩ := hundone ⟨0x8125⟩ ⟨0x8124⟩ t u (.inl ⟨by decide, by decide⟩)
      rfl rfl (by decide) (by decide) (by decide) ht hu
    refine ⟨t, u, ht, hu, (hreckoned t ht).flag_eq false rfl, ?_, hflags⟩
    rw [hregisters 1 (by decide)]
    decide +kernel

end State

end ChipEight
