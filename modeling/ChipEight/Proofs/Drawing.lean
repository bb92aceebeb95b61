import ChipEight.Proofs.Frame

/-!
# Drawing pixel by pixel

A sprite is drawn by building a mask as large as the screen and flipping every pixel under it. This
file tells the outcome without masks: `State.spriteBit` is the bit of memory that comes to lie on a
pixel, and every pixel of the new screen is the old one or its opposite, as that bit says. The
sprite's corner is wrapped to lie on the screen and its far end is not, so what would run past an
edge has no pixel to lie on.

`State.drawn` is the state that a sprite leaves before the program counter moves on. An instruction
made by hand may have any whole number of rows, and `State.eq_of_executeInstruction_draw` speaks of
all of them; one with fewer than no rows draws nothing.
-/

namespace ChipEight

variable {g : Geometry} {capacity : Nat}

namespace State

/-! ## The instruction in one piece -/

/-- The state with a sprite flipped on the screen and the flag set if it collides. -/
def drawn (s : State g capacity) (p : Sprite) : State g capacity :=
  { s.setFlag (s.screen.grid.collides (p.mask s.memory)) with
    screen := Screen.ofGrid (s.screen.grid.flip (p.mask s.memory)) }

theorem eq_of_draw {s t : State g capacity} {x y : Fin registerCount} {rows : Int}
    (h : s.draw x y rows = .ok t) : t = (s.drawn (s.spriteAt x y rows.toNat)).proceed := by
  rw [draw, sprite_eq] at h
  cases hrange : Memory.checkRange s.index.toNat rows with
  | error f =>
    rw [hrange] at h
    cases h
  | ok =>
    rw [hrange] at h
    cases hsize : g.oversize? with
    | some v =>
      rw [hsize] at h
      cases h
    | none =>
      rw [hsize] at h
      cases hfits : fitsSigned 32 rows with
      | false =>
        rw [hfits] at h
        cases h
      | true =>
        rw [hfits] at h
        exact (Except.ok.inj h).symm

theorem draw_natCast (s : State g capacity) (x y : Fin registerCount) (rows : Nat) :
    s.draw x y rows =
      match Memory.outside? s.index.toNat rows with
      | some c => .error (.fault { cause := c })
      | none =>
        match g.oversize? with
        | some v => .error (.range (.operand .divisor v))
        | none => .ok (s.drawn (s.spriteAt x y rows)).proceed := by
  rw [draw, Memory.checkRange_natCast, sprite_eq]
  cases hblock : Memory.outside? s.index.toNat rows with
  | some c => rfl
  | none =>
    have hrows : rows < 0x10000 := by
      rcases Nat.eq_zero_or_pos rows with rfl | hpos
      · decide
      · have hle := (Memory.outside?_eq_none_iff hpos).mp hblock
        simp only [memorySize] at hle
        omega
    rw [fitsSigned_32_of_lt hrows]
    cases g.oversize? <;> rfl

theorem perform_draw (s : State g capacity) {i : Instruction} (hop : i.operation = .draw) :
    s.perform i = s.draw i.x i.y i.n := by
  rw [perform, hop]

theorem executeInstruction_eq (s : State g capacity) (i : Instruction) :
    s.executeInstruction i =
      match s.perform i with
      | .error e => .error e
      | .ok t =>
        match Memory.outside? t.pc.toNat 2 with
        | some c => .error (.fault { cause := c })
        | none => .ok t := by
  rw [executeInstruction]
  cases s.perform i with
  | error e => rfl
  | ok t =>
    change (do t.checkPc.mapError Failure.fault; return t) = _
    rw [checkPc_eq]
    dsimp only
    cases Memory.outside? t.pc.toNat 2 <;> rfl

theorem perform_of_executeInstruction {s t : State g capacity} {i : Instruction}
    (h : s.executeInstruction i = .ok t) : s.perform i = .ok t := by
  rw [executeInstruction_eq] at h
  cases hperform : s.perform i with
  | error e =>
    rw [hperform] at h
    cases h
  | ok u =>
    simp only [hperform] at h
    split at h
    · cases h
    · exact h

theorem eq_of_executeInstruction_draw {s t : State g capacity} {i : Instruction}
    (hop : i.operation = .draw) (h : s.executeInstruction i = .ok t) :
    t = (s.drawn (s.spriteAt i.x i.y i.n.toNat)).proceed := by
  have hperform := perform_of_executeInstruction h
  rw [s.perform_draw hop] at hperform
  exact eq_of_draw hperform

theorem toNat_pc_proceed (s : State g capacity) :
    s.proceed.pc.toNat = (s.pc.toNat + 2) % 0x1000 := by
  rw [proceed_eq, BitVec.toNat_ofNat]
  exact Nat.mod_eq_of_lt (by omega)

/-- Three things can go wrong with drawing: the rows do not all lie in memory, the screen is
oversized, or no whole instruction follows. -/
theorem executeInstruction_draw (s : State g capacity) {i : Instruction} {rows : Nat}
    (hop : i.operation = .draw) (hrows : i.n = rows) :
    s.executeInstruction i =
      match Memory.outside? s.index.toNat rows with
      | some c => .error (.fault { cause := c })
      | none =>
        match g.oversize? with
        | some v => .error (.range (.operand .divisor v))
        | none =>
          match Memory.outside? ((s.pc.toNat + 2) % 0x1000) 2 with
          | some c => .error (.fault { cause := c })
          | none => .ok (s.drawn (s.spriteAt i.x i.y rows)).proceed := by
  rw [executeInstruction_eq, s.perform_draw hop, hrows, draw_natCast]
  cases Memory.outside? s.index.toNat rows with
  | some c => rfl
  | none =>
    cases g.oversize? with
    | some v => rfl
    | none =>
      have hpc : (s.drawn (s.spriteAt i.x i.y rows)).proceed.pc.toNat =
          (s.pc.toNat + 2) % 0x1000 := toNat_pc_proceed _
      simp only [hpc]

end State

/-! ## Pixels -/

/-- A pixel under a sprite, with the bits of a byte counted from the right. -/
theorem Sprite.mask_eq (p : Sprite) (m : Memory) (r : Fin g.height) (c : Fin g.width) :
    p.mask m r c =
      if p.left ≤ c ∧ c < p.left + 8 ∧ p.top ≤ r ∧ r < p.top + p.rows then
        (m.read (p.address + (r - p.top))).getLsbD (7 - (c - p.left))
      else false := by
  rw [mask]
  split
  · next h =>
    have hcolumn : (c : Nat) - p.left < 8 := by omega
    rw [decide_eq_true h, Bool.true_and, BitVec.getMsbD, decide_eq_true hcolumn, Bool.true_and]
  · next h => rw [decide_eq_false h, Bool.false_and]

theorem Grid.collides_eq_true_iff {a b : Grid g} :
    a.collides b = true ↔ ∃ r c, a r c = true ∧ b r c = true := by
  simp only [collides, decide_eq_true_eq, Bool.and_eq_true]

theorem Grid.collides_eq_false_iff {a b : Grid g} :
    a.collides b = false ↔ ∀ r c, a r c = true → b r c = false := by
  rw [← Bool.not_eq_true, collides_eq_true_iff]
  simp only [not_exists, not_and, Bool.not_eq_true]

namespace State

/-- The bit of memory that comes to lie on a pixel when a sprite is drawn at the place that two
registers hold. Where the sprite does not reach there is none, and no bit is set. -/
def spriteBit (s : State g capacity) (x y : Fin registerCount) (rows row column : Nat) : Bool :=
  let left := (s.register x).toNat % g.width
  let top := (s.register y).toNat % g.height
  if left ≤ column ∧ column < left + 8 ∧ top ≤ row ∧ row < top + rows then
    (s.memory.read (s.index.toNat + (row - top))).getLsbD (7 - (column - left))
  else false

theorem mask_spriteAt (s : State g capacity) (x y : Fin registerCount) (rows : Nat)
    (r : Fin g.height) (c : Fin g.width) :
    (s.spriteAt x y rows).mask s.memory r c = s.spriteBit x y rows r c :=
  (s.spriteAt x y rows).mask_eq s.memory r c

theorem setFlag_eq_one_iff (s : State g capacity) {flag : Bool} :
    (s.setFlag flag).register flagRegister = 1 ↔ flag = true := by
  rw [register_setFlag]
  cases flag <;> decide

theorem setFlag_eq_zero_iff (s : State g capacity) {flag : Bool} :
    (s.setFlag flag).register flagRegister = 0 ↔ flag = false := by
  rw [register_setFlag]
  cases flag <;> decide

/-- That one state comes from another by drawing the rows of a sprite bit by bit. -/
structure DrawnBitwise (s : State g capacity) (x y : Fin registerCount) (rows : Nat)
    (t : State g capacity) : Prop where
  /-- Every pixel is flipped if the bit that comes to lie on it is set. -/
  bit_screen : ∀ (r : Fin g.height) (c : Fin g.width),
    t.screen.bit (r * g.width + c) =
      (s.screen.bit (r * g.width + c) ^^ s.spriteBit x y rows r c)
  /-- The flag is set if a set bit has come to lie on a lit pixel. -/
  flag_eq_one : t.register flagRegister = 1 ↔ ∃ (r : Fin g.height) (c : Fin g.width),
    s.screen.bit (r * g.width + c) = true ∧ s.spriteBit x y rows r c = true
  /-- Otherwise it is cleared. -/
  flag_eq_zero : t.register flagRegister = 0 ↔ ∀ (r : Fin g.height) (c : Fin g.width),
    s.screen.bit (r * g.width + c) = true → s.spriteBit x y rows r c = false
  /-- No other register is written. -/
  register_eq : ∀ r, r ≠ flagRegister → t.register r = s.register r
  /-- Nothing changes but the screen, the flag and the program counter. -/
  eq_with : t = { s with
    screen := t.screen
    registers := t.registers
    pc := BitVec.ofNat 16 ((s.pc.toNat + 2) % 0x1000) }

theorem grid_drawn (s : State g capacity) (p : Sprite) :
    (s.drawn p).screen.grid = s.screen.grid.flip (p.mask s.memory) :=
  Screen.grid_ofGrid _

theorem drawnBitwise_drawn (s : State g capacity) (x y : Fin registerCount) (rows : Nat) :
    s.DrawnBitwise x y rows (s.drawn (s.spriteAt x y rows)).proceed where
  bit_screen r c := by
    rw [← s.mask_spriteAt x y rows r c]
    exact congrFun (congrFun (s.grid_drawn (s.spriteAt x y rows)) r) c
  flag_eq_one := by
    refine (setFlag_eq_one_iff s).trans (Grid.collides_eq_true_iff.trans ?_)
    simp only [mask_spriteAt]
    rfl
  flag_eq_zero := by
    refine (setFlag_eq_zero_iff s).trans (Grid.collides_eq_false_iff.trans ?_)
    simp only [mask_spriteAt]
    rfl
  register_eq r hr := s.register_setFlag_of_ne hr _
  eq_with := proceed_eq _

theorem drawn_of_no_rows (s : State g capacity) (x y : Fin registerCount) :
    s.drawn (s.spriteAt x y 0) = s.setFlag false := by
  have hmask (r : Fin g.height) (c : Fin g.width) :
      (s.spriteAt x y 0).mask s.memory r c = false := by
    refine (s.mask_spriteAt x y 0 r c).trans (if_neg ?_)
    omega
  have hcollides : s.screen.grid.collides ((s.spriteAt x y 0).mask s.memory) = false :=
    Grid.collides_eq_false_iff.mpr fun r c _ ↦ hmask r c
  have hflip : s.screen.grid.flip ((s.spriteAt x y 0).mask s.memory) = s.screen.grid := by
    funext r c
    rw [Grid.flip, hmask, Bool.xor_false]
  rw [drawn, hcollides, hflip, Screen.ofGrid_grid]
  rfl

/-- A sprite is drawn exactly where its rows lie in memory, the screen is not oversized and a whole
instruction follows. -/
theorem exists_executeInstruction_draw (s : State g capacity) {i : Instruction} {rows : Nat}
    (hop : i.operation = .draw) (hrows : i.n = rows) :
    (∃ t, s.executeInstruction i = .ok t) ↔
      (0 < rows → s.index.toNat + rows ≤ memorySize) ∧
        (g.width < 0x80000000 ∧ g.height < 0x80000000) ∧
        (s.pc.toNat + 2) % 0x1000 + 2 ≤ memorySize := by
  rw [s.executeInstruction_draw hop hrows, ← Memory.outside?_eq_none,
    ← Geometry.oversize?_eq_none_iff, ← Memory.outside?_eq_none_iff (by decide)]
  cases Memory.outside? s.index.toNat rows with
  | some c => simp
  | none =>
    cases g.oversize? with
    | some v => simp
    | none => cases Memory.outside? ((s.pc.toNat + 2) % 0x1000) 2 <;> simp

theorem error_of_draw_no_rows {s : State g capacity} {i : Instruction} {e : Failure}
    (hop : i.operation = .draw) (hrows : i.n = (0 : Nat)) (h : s.executeInstruction i = .error e) :
    e = .fault (.memoryAccess ((s.pc.toNat + 2) % 0x1000 : Nat) 2) ∨
      ∃ length : Nat, g.oversize? = some length ∧ e = .range (.operand .divisor length) := by
  rw [s.executeInstruction_draw hop hrows, Memory.outside?_zero] at h
  -- without rows nothing is read, and the screen is what can still be wrong
  cases hsize : g.oversize? with
  | some v =>
    rw [hsize] at h
    exact .inr ⟨v, rfl, (Except.error.inj h).symm⟩
  | none =>
    rw [hsize] at h
    cases hpc : Memory.outside? ((s.pc.toNat + 2) % 0x1000) 2 with
    | none =>
      rw [hpc] at h
      cases h
    | some c =>
      rw [hpc, (Memory.outside?_eq_some_iff.mp hpc).2] at h
      exact .inl (Except.error.inj h).symm

/-- **Sprites bit by bit.** An instruction that draws succeeds if the rows of its sprite lie in
memory, no side of the screen has `2 ^ 31` pixels or more, and a whole instruction follows. Then
every pixel is flipped that a set bit comes to lie on and the flag tells whether one of them was
lit. Without rows it clears the flag, wherever the index register points. -/
theorem sprite_drawn_bitwise (s : State g capacity) (i : Instruction) (rows : Nat)
    (hop : i.operation = .draw) (hrows : i.n = rows) :
    (∀ t, s.executeInstruction i = .ok t → s.DrawnBitwise i.x i.y rows t) ∧
    ((∃ t, s.executeInstruction i = .ok t) ↔
      (0 < rows → s.index.toNat + rows ≤ memorySize) ∧
        (g.width < 0x80000000 ∧ g.height < 0x80000000) ∧
        (s.pc.toNat + 2) % 0x1000 + 2 ≤ memorySize) ∧
    (rows = 0 →
      (g.width < 0x80000000 ∧ g.height < 0x80000000 →
        s.perform i = .ok { s with
          registers := s.registers.set flagRegister 0
          pc := BitVec.ofNat 16 ((s.pc.toNat + 2) % 0x1000) }) ∧
      ∀ e, s.executeInstruction i = .error e →
        e = .fault (.memoryAccess ((s.pc.toNat + 2) % 0x1000 : Nat) 2) ∨
        ∃ length : Nat, 0x80000000 ≤ length ∧ (length = g.width ∨ length = g.height) ∧
          e = .range (.operand .divisor length)) := by
  refine ⟨fun t h ↦ ?_, s.exists_executeInstruction_draw hop hrows, ?_⟩
  · rw [eq_of_executeInstruction_draw hop h, hrows]
    exact s.drawnBitwise_drawn i.x i.y rows
  · rintro rfl
    refine ⟨fun hsize ↦ ?_, fun e h ↦ ?_⟩
    · rw [s.perform_draw hop, hrows, draw_natCast, Memory.outside?_zero,
        Geometry.oversize?_eq_none_iff.mpr hsize, drawn_of_no_rows]
      exact congrArg Except.ok (proceed_eq _)
    · refine (error_of_draw_no_rows hop hrows h).imp_right ?_
      rintro ⟨length, hlength, rfl⟩
      obtain ⟨hle, hside⟩ := Geometry.le_of_oversize? hlength
      exact ⟨length, hle, hside, rfl⟩

/-- A small screen, all of it lit, and a sprite with far too many rows over its lower right corner.
The flag register is what places the sprite, and it is wrapped. -/
theorem sprite_drawn_bitwise_of_corner :
    let s : State ⟨2, 3, Nat.succ_pos 1, Nat.succ_pos 2⟩ 16 :=
      { State.initial ⟨2, 3, Nat.succ_pos 1, Nat.succ_pos 2⟩ 16 ⟨0, 0⟩ with
        registers := Vector.replicate registerCount 29
        index := 1
        screen := Vector.replicate 6 0xFF }
    ∃ t, s.executeInstruction { operation := .draw, x := 15, y := 15, n := 20 } = .ok t ∧
      s.DrawnBitwise 15 15 20 t ∧ t.register flagRegister = 1 ∧
      (List.finRange 16).map (fun c : Fin 16 ↦ t.screen.bit (2 * 16 + c)) =
        List.replicate 13 true ++ [false, true, true] := by
  intro s
  obtain ⟨hdrawn, hok, -⟩ :=
    s.sprite_drawn_bitwise { operation := .draw, x := 15, y := 15, n := 20 } 20 rfl rfl
  obtain ⟨t, ht⟩ := hok.mpr (by decide)
  have hbit (c : Fin 16) : t.screen.bit (2 * 16 + c) =
      (s.screen.bit (2 * 16 + c) ^^ s.spriteBit 15 15 20 2 c) := (hdrawn t ht).bit_screen 2 c
  refine ⟨t, ht, hdrawn t ht, ?_, ?_⟩
  · refine (hdrawn t ht).flag_eq_one.mpr ⟨2, (13 : Fin 16), ?_⟩
    decide +kernel
  · rw [funext hbit]
    decide +kernel

end State

end ChipEight
