import ChipEight.Proofs.Drawing

/-!
# Sprites combine by exclusive or

A sprite flips the pixels under its set bits, and where it lies depends on the index register, on
memory and on two registers. Drawing changes none of these, unless one of the two is the flag
register. So the sprites that a list of words draws are known beforehand, and `State.Superposed`
tells the outcome of the whole list by them: every pixel is flipped once for each sprite with a set
bit on it.

## Order

Nothing in that description depends on the order of the words but the flag, which is left out of it.
What can go wrong does not depend on the order either: the block of each word lies where it lies,
and the program counter only counts the words. That a list can be drawn in another order, and that
drawing it twice undoes it, are then facts about exclusive ors alone.
-/

namespace ChipEight

variable {g : Geometry} {capacity : Nat}

/-- That a word draws a sprite at a place in which the flag has no part. -/
structure Opcode.DrawsApart (o : Opcode) : Prop where
  /-- It draws. -/
  matches_draw : Operation.draw.Matches o.word
  /-- Its first register is not the flag register. -/
  x_ne : o.n2 ≠ flagRegister
  /-- Its second register is not the flag register. -/
  y_ne : o.n3 ≠ flagRegister

instance (o : Opcode) : Decidable o.DrawsApart :=
  decidable_of_iff
    (Operation.draw.Matches o.word ∧ o.n2 ≠ flagRegister ∧ o.n3 ≠ flagRegister)
    ⟨fun h ↦ ⟨h.1, h.2.1, h.2.2⟩, fun h ↦ ⟨h.matches_draw, h.x_ne, h.y_ne⟩⟩

namespace State

def executeAll (s : State g capacity) (words : List Opcode) : Except Failure (State g capacity) :=
  words.foldlM (fun s o ↦ s.execute o.value) s

theorem executeAll_nil (s : State g capacity) : s.executeAll [] = .ok s := rfl

theorem executeAll_cons_eq_ok_iff {s t : State g capacity} {o : Opcode} {words : List Opcode} :
    s.executeAll (o :: words) = .ok t ↔
      ∃ u, s.execute o.value = .ok u ∧ u.executeAll words = .ok t := by
  rw [executeAll, List.foldlM_cons]
  cases s.execute o.value with
  | error e => simp [bind, Except.bind]
  | ok u => simp [bind, Except.bind, executeAll]

/-! ## One word -/

theorem execute_draw {s : State g capacity} {o : Opcode} (h : Operation.draw.Matches o.word) :
    s.execute o.value = s.executeInstruction (o.withOperation .draw) :=
  (s.execute_of_matches h).trans (s.executeInstruction_withOperation o .draw).symm

theorem exists_execute_draw {s : State g capacity} {o : Opcode}
    (h : Operation.draw.Matches o.word) :
    (∃ t, s.execute o.value = .ok t) ↔
      ((0 < o.n4 → s.index.toNat + o.n4 ≤ memorySize) ∧ g.oversize? = none) ∧
        (s.pc.toNat + 2) % 0x1000 + 2 ≤ memorySize := by
  rw [exists_execute_block_iff h List.mem_cons_self, forall_prop_of_true rfl,
    Geometry.oversize?_eq_none_iff]
  exact and_assoc.symm

theorem drawnBitwise_of_execute {s t : State g capacity} {o : Opcode}
    (h : Operation.draw.Matches o.word) (ht : s.execute o.value = .ok t) :
    s.DrawnBitwise o.n2 o.n3 o.n4 t := by
  rw [execute_draw h] at ht
  rw [eq_of_executeInstruction_draw rfl ht]
  exact s.drawnBitwise_drawn o.n2 o.n3 o.n4

section DrawnBitwise

variable {s t : State g capacity} {x y : Fin registerCount} {rows : Nat}

theorem DrawnBitwise.memory_eq (h : s.DrawnBitwise x y rows t) : t.memory = s.memory := by
  rw [h.eq_with]

theorem DrawnBitwise.index_eq (h : s.DrawnBitwise x y rows t) : t.index = s.index := by
  rw [h.eq_with]

theorem DrawnBitwise.toNat_pc (h : s.DrawnBitwise x y rows t) :
    t.pc.toNat = (s.pc.toNat + 2) % 0x1000 := by
  rw [congrArg pc h.eq_with, BitVec.toNat_ofNat]
  exact Nat.mod_eq_of_lt (by omega)

/-- Drawing moves no sprite that is placed by other registers than the flag register. -/
theorem DrawnBitwise.spriteBit_eq (h : s.DrawnBitwise x y rows t) {x' y' : Fin registerCount}
    (hx : x' ≠ flagRegister) (hy : y' ≠ flagRegister) (rows' r c : Nat) :
    t.spriteBit x' y' rows' r c = s.spriteBit x' y' rows' r c := by
  rw [spriteBit, spriteBit, h.register_eq x' hx, h.register_eq y' hy, h.memory_eq, h.index_eq]

end DrawnBitwise

/-! ## Exclusive ors -/

/-- What becomes of a pixel that is lit or not, when the sprites of some words are drawn where they
lie now. -/
def flipped (s : State g capacity) (words : List Opcode) (r c : Nat) (lit : Bool) : Bool :=
  words.foldl (fun lit o ↦ lit ^^ s.spriteBit o.n2 o.n3 o.n4 r c) lit

theorem flipped_cons (s : State g capacity) (o : Opcode) (words : List Opcode) (r c : Nat)
    (lit : Bool) :
    s.flipped (o :: words) r c lit =
      s.flipped words r c (lit ^^ s.spriteBit o.n2 o.n3 o.n4 r c) := rfl

theorem flipped_append (s : State g capacity) (first second : List Opcode) (r c : Nat)
    (lit : Bool) :
    s.flipped (first ++ second) r c lit = s.flipped second r c (s.flipped first r c lit) :=
  List.foldl_append

theorem flipped_of_perm (s : State g capacity) {words words' : List Opcode}
    (h : words.Perm words') (r c : Nat) (lit : Bool) :
    s.flipped words r c lit = s.flipped words' r c lit :=
  h.foldl_eq' (fun _ _ _ _ _ ↦ Bool.xor_right_comm ..) lit

theorem flipped_xor (s : State g capacity) (words : List Opcode) (r c : Nat) (lit bit : Bool) :
    s.flipped words r c (lit ^^ bit) = (s.flipped words r c lit ^^ bit) := by
  induction words generalizing lit with
  | nil => rfl
  | cons o words ih => rw [flipped_cons, flipped_cons, Bool.xor_right_comm, ih]

theorem flipped_flipped (s : State g capacity) (words : List Opcode) (r c : Nat) (lit : Bool) :
    s.flipped words r c (s.flipped words r c lit) = lit := by
  induction words generalizing lit with
  | nil => rfl
  | cons o words ih =>
    rw [flipped_cons, flipped_cons, ← flipped_xor, ih, Bool.xor_assoc, Bool.xor_self,
      Bool.xor_false]

theorem DrawnBitwise.flipped_eq {s t : State g capacity} {x y : Fin registerCount} {rows : Nat}
    (h : s.DrawnBitwise x y rows t) {words : List Opcode} (hwords : ∀ o ∈ words, o.DrawsApart)
    (r c : Nat) (lit : Bool) : t.flipped words r c lit = s.flipped words r c lit := by
  induction words generalizing lit with
  | nil => rfl
  | cons o words ih =>
    obtain ⟨ho, hwords⟩ := List.forall_mem_cons.mp hwords
    rw [flipped_cons, flipped_cons, h.spriteBit_eq ho.x_ne ho.y_ne, ih hwords]

/-! ## Lists of words -/

/-- Where execution goes on after some instructions in a row. -/
def addressAfter (s : State g capacity) : Nat → Nat
  | 0 => s.pc.toNat
  | k + 1 => (s.pc.toNat + 2 * (k + 1)) % 0x1000

theorem addressAfter_of_toNat_pc {s t : State g capacity}
    (h : t.pc.toNat = (s.pc.toNat + 2) % 0x1000) (k : Nat) :
    t.addressAfter k = s.addressAfter (k + 1) := by
  cases k with
  | zero => exact h
  | succ k =>
    rw [addressAfter, addressAfter, h]
    omega

/-- That one state comes from another by drawing the sprites of some words, all of them where they
lie in the first state. -/
structure Superposed (s : State g capacity) (words : List Opcode) (t : State g capacity) :
    Prop where
  /-- Every pixel is flipped once for each sprite that has a set bit on it. -/
  bit_screen : ∀ (r : Fin g.height) (c : Fin g.width),
    t.screen.bit (r * g.width + c) = s.flipped words r c (s.screen.bit (r * g.width + c))
  /-- No register but the flag register is written. -/
  register_eq : ∀ r, r ≠ flagRegister → t.register r = s.register r
  /-- The program counter has moved on by all of the words. -/
  toNat_pc : t.pc.toNat = s.addressAfter words.length
  /-- Nothing else changes. -/
  eq_with : t = { s with screen := t.screen, registers := t.registers, pc := t.pc }

theorem superposed_nil (s : State g capacity) : s.Superposed [] s where
  bit_screen _ _ := rfl
  register_eq _ _ := rfl
  toNat_pc := rfl
  eq_with := rfl

theorem DrawnBitwise.superposed {s t u : State g capacity} {o : Opcode} {words : List Opcode}
    (h : s.DrawnBitwise o.n2 o.n3 o.n4 u) (hwords : ∀ o ∈ words, o.DrawsApart)
    (ht : u.Superposed words t) : s.Superposed (o :: words) t where
  bit_screen r c := by
    rw [ht.bit_screen, h.flipped_eq hwords, h.bit_screen, flipped_cons]
  register_eq r hr := by rw [ht.register_eq r hr, h.register_eq r hr]
  toNat_pc := by rw [ht.toNat_pc, addressAfter_of_toNat_pc h.toNat_pc, List.length_cons]
  eq_with := by
    calc t = { u with screen := t.screen, registers := t.registers, pc := t.pc } := ht.eq_with
      _ = { s with screen := t.screen, registers := t.registers, pc := t.pc } := by rw [h.eq_with]

theorem superposed_of_executeAll {s t : State g capacity} {words : List Opcode}
    (hwords : ∀ o ∈ words, o.DrawsApart) (ht : s.executeAll words = .ok t) :
    s.Superposed words t := by
  induction words generalizing s with
  | nil =>
    obtain rfl := Except.ok.inj ht
    exact s.superposed_nil
  | cons o words ih =>
    obtain ⟨ho, hwords⟩ := List.forall_mem_cons.mp hwords
    obtain ⟨u, hu, ht⟩ := executeAll_cons_eq_ok_iff.mp ht
    exact (drawnBitwise_of_execute ho.matches_draw hu).superposed hwords (ih hwords ht)

theorem exists_executeAll_iff {s : State g capacity} {words : List Opcode}
    (hwords : ∀ o ∈ words, o.DrawsApart) :
    (∃ t, s.executeAll words = .ok t) ↔
      (∀ o ∈ words, (0 < o.n4 → s.index.toNat + o.n4 ≤ memorySize) ∧ g.oversize? = none) ∧
        ∀ k < words.length, s.addressAfter (k + 1) + 2 ≤ memorySize := by
  induction words generalizing s with
  | nil => simp [executeAll_nil]
  | cons o words ih =>
    obtain ⟨ho, hwords⟩ := List.forall_mem_cons.mp hwords
    -- one word more at the front is one condition more of either kind
    rw [List.forall_mem_cons, List.length_cons, Nat.forall_lt_succ_left, and_and_and_comm]
    have hfirst := exists_execute_draw (s := s) ho.matches_draw
    have hrest {u : State g capacity} (hu : s.execute o.value = .ok u) :
        (∃ t, u.executeAll words = .ok t) ↔
          (∀ o ∈ words, (0 < o.n4 → s.index.toNat + o.n4 ≤ memorySize) ∧ g.oversize? = none) ∧
            ∀ k < words.length, s.addressAfter (k + 1 + 1) + 2 ≤ memorySize := by
      have hdrawn := drawnBitwise_of_execute ho.matches_draw hu
      simp only [ih hwords, hdrawn.index_eq, addressAfter_of_toNat_pc hdrawn.toNat_pc]
    constructor
    · rintro ⟨t, ht⟩
      obtain ⟨u, hu, ht⟩ := executeAll_cons_eq_ok_iff.mp ht
      exact ⟨hfirst.mp ⟨u, hu⟩, (hrest hu).mp ⟨t, ht⟩⟩
    · rintro ⟨hone, hall⟩
      obtain ⟨u, hu⟩ := hfirst.mpr hone
      obtain ⟨t, ht⟩ := (hrest hu).mpr hall
      exact ⟨t, executeAll_cons_eq_ok_iff.mpr ⟨u, hu, ht⟩⟩

/-! ## Other orders -/

/-- Words can be executed in any order, and only the flag may tell in which. -/
theorem executeAll_of_perm {s t : State g capacity} {words words' : List Opcode}
    (hwords : ∀ o ∈ words, o.DrawsApart) (hperm : words.Perm words')
    (ht : s.executeAll words = .ok t) :
    ∃ t', s.executeAll words' = .ok t' ∧ t' = { t with registers := t'.registers } ∧
      ∀ r, r ≠ flagRegister → t'.register r = t.register r := by
  have hwords' : ∀ o ∈ words', o.DrawsApart := fun o ho ↦ hwords o (hperm.mem_iff.mpr ho)
  -- what success asks for concerns each word by itself or their number
  obtain ⟨hblocks, haddresses⟩ := (exists_executeAll_iff hwords).mp ⟨t, ht⟩
  rw [hperm.length_eq] at haddresses
  obtain ⟨t', ht'⟩ := (exists_executeAll_iff hwords').mpr
    ⟨fun o ho ↦ hblocks o (hperm.mem_iff.mpr ho), haddresses⟩
  have hs := superposed_of_executeAll hwords ht
  have hs' := superposed_of_executeAll hwords' ht'
  have hscreen : t'.screen = t.screen := by
    apply Screen.eq_of_grid_eq
    funext r c
    calc t'.screen.bit (r * g.width + c)
        = s.flipped words' r c (s.screen.bit (r * g.width + c)) := hs'.bit_screen r c
      _ = s.flipped words r c (s.screen.bit (r * g.width + c)) := s.flipped_of_perm hperm.symm ..
      _ = t.screen.bit (r * g.width + c) := (hs.bit_screen r c).symm
  have hpc : t'.pc = t.pc := by
    apply BitVec.eq_of_toNat_eq
    rw [hs'.toNat_pc, hs.toNat_pc, hperm.length_eq]
  refine ⟨t', ht', ?_, fun r hr ↦ (hs'.register_eq r hr).trans (hs.register_eq r hr).symm⟩
  calc t' = { s with screen := t'.screen, registers := t'.registers, pc := t'.pc } := hs'.eq_with
    _ = { s with screen := t.screen, registers := t'.registers, pc := t.pc } := by rw [hscreen, hpc]
    _ = { t with registers := t'.registers } := by rw [hs.eq_with]

theorem screen_of_executeAll_twice {s t : State g capacity} {words first second : List Opcode}
    (hwords : ∀ o ∈ words, o.DrawsApart) (hfirst : first.Perm words) (hsecond : second.Perm words)
    (ht : s.executeAll (first ++ second) = .ok t) : t.screen = s.screen := by
  have happart : ∀ o ∈ first ++ second, o.DrawsApart := by
    intro o ho
    rcases List.mem_append.mp ho with ho | ho
    · exact hwords o (hfirst.mem_iff.mp ho)
    · exact hwords o (hsecond.mem_iff.mp ho)
  have hs := superposed_of_executeAll happart ht
  apply Screen.eq_of_grid_eq
  funext r c
  calc t.screen.bit (r * g.width + c)
      = s.flipped (first ++ second) r c (s.screen.bit (r * g.width + c)) := hs.bit_screen r c
    _ = s.screen.bit (r * g.width + c) := by
      -- both orders flip a pixel as the words in their given order do
      rw [flipped_append, s.flipped_of_perm hfirst, s.flipped_of_perm hsecond, flipped_flipped]

/-! ## Two draws in a row -/

/-- A sprite that is drawn again where it was drawn collides if it had lit a pixel at first. -/
theorem DrawnBitwise.flag_of_again {s t u : State g capacity} {x y : Fin registerCount} {rows : Nat}
    (h : s.DrawnBitwise x y rows t) (hagain : t.DrawnBitwise x y rows u)
    (hx : x ≠ flagRegister) (hy : y ≠ flagRegister) :
    (u.register flagRegister = 1 ↔ ∃ (r : Fin g.height) (c : Fin g.width),
      s.screen.bit (r * g.width + c) = false ∧ s.spriteBit x y rows r c = true) ∧
    (u.register flagRegister = 0 ↔ ∀ (r : Fin g.height) (c : Fin g.width),
      s.spriteBit x y rows r c = true → s.screen.bit (r * g.width + c) = true) := by
  rw [hagain.flag_eq_one, hagain.flag_eq_zero]
  simp only [h.spriteBit_eq hx hy, h.bit_screen]
  constructor
  · refine exists_congr fun r ↦ exists_congr fun c ↦ ?_
    cases s.spriteBit x y rows r c <;> simp
  · refine forall_congr' fun r ↦ forall_congr' fun c ↦ ?_
    cases s.spriteBit x y rows r c <;> simp

theorem clear_of_execute {s t : State g capacity}
    (ht : s.execute (Opcode.mk 0x00E0).value = .ok t) :
    t.screen = Screen.blank ∧
      ∀ x y rows r c, t.spriteBit x y rows r c = s.spriteBit x y rows r c := by
  have hrow : Operation.clearScreen.Matches (Opcode.mk 0x00E0).word := by decide
  obtain ⟨-, rfl⟩ := (execute_eq_ok_iff hrow).mp ht
  exact ⟨rfl, fun _ _ _ _ _ ↦ rfl⟩

theorem DrawnBitwise.of_blank {s t : State g capacity} {x y : Fin registerCount} {rows : Nat}
    (h : s.DrawnBitwise x y rows t) (hblank : s.screen = Screen.blank) :
    t.register flagRegister = 0 ∧ ∀ (r : Fin g.height) (c : Fin g.width),
      t.screen.bit (r * g.width + c) = s.spriteBit x y rows r c := by
  constructor
  · rw [h.flag_eq_zero, hblank]
    intro r c hlit
    rw [Screen.bit_blank] at hlit
    cases hlit
  · intro r c
    rw [h.bit_screen, hblank, Screen.bit_blank, Bool.false_xor]

/-- **Sprites combine by exclusive or.** Words that draw, at places in which the flag has no part,
flip every pixel once for each of their sprites that has a set bit on it. They can be executed in
any order with the same outcome, the flag aside, and executed twice they leave the screen as it was.
The second of two draws of one word collides if the first has lit a pixel. After the screen has been
cleared, a word that draws clears the flag and leaves its sprite alone on the screen. -/
theorem sprites_superpose (s : State g capacity) :
    (∀ words : List Opcode, (∀ o ∈ words, o.DrawsApart) →
      (∀ t, s.executeAll words = .ok t → s.Superposed words t ∧
        ∀ words', words.Perm words' → ∃ t', s.executeAll words' = .ok t' ∧
          t' = { t with registers := t'.registers } ∧
          ∀ r, r ≠ flagRegister → t'.register r = t.register r) ∧
      ∀ first second t, first.Perm words → second.Perm words →
        s.executeAll (first ++ second) = .ok t → t.screen = s.screen) ∧
    (∀ (o : Opcode) (t u : State g capacity), o.DrawsApart →
      s.execute o.value = .ok t → t.execute o.value = .ok u →
      (u.register flagRegister = 1 ↔ ∃ (r : Fin g.height) (c : Fin g.width),
        s.screen.bit (r * g.width + c) = false ∧ s.spriteBit o.n2 o.n3 o.n4 r c = true) ∧
      (u.register flagRegister = 0 ↔ ∀ (r : Fin g.height) (c : Fin g.width),
        s.spriteBit o.n2 o.n3 o.n4 r c = true → s.screen.bit (r * g.width + c) = true)) ∧
    ∀ (o : Opcode) (t u : State g capacity), Operation.draw.Matches o.word →
      s.execute (Opcode.mk 0x00E0).value = .ok t → t.execute o.value = .ok u →
      u.register flagRegister = 0 ∧ ∀ (r : Fin g.height) (c : Fin g.width),
        u.screen.bit (r * g.width + c) = s.spriteBit o.n2 o.n3 o.n4 r c := by
  refine ⟨?list, ?again, ?cleared⟩
  case list =>
    intro words hwords
    constructor
    · intro t ht
      refine ⟨superposed_of_executeAll hwords ht, ?_⟩
      intro words' hperm
      exact executeAll_of_perm hwords hperm ht
    · intro first second t hfirst hsecond ht
      exact screen_of_executeAll_twice hwords hfirst hsecond ht
  case again =>
    intro o t u ho ht hu
    have hfirst := drawnBitwise_of_execute ho.matches_draw ht
    have hsecond := drawnBitwise_of_execute ho.matches_draw hu
    exact hfirst.flag_of_again hsecond ho.x_ne ho.y_ne
  case cleared =>
    intro o t u ho ht hu
    obtain ⟨hblank, hbit⟩ := clear_of_execute ht
    obtain ⟨hflag, hscreen⟩ := (drawnBitwise_of_execute ho hu).of_blank hblank
    refine ⟨hflag, ?_⟩
    intro r c
    rw [hscreen r c, hbit]

/-- Two sprites side by side, one of them over a lit pixel, in both orders and twice. The second
draw of the first one collides, because it had lit three pixels. -/
theorem sprites_superpose_of_two_words :
    let s : State ⟨1, 1, Nat.succ_pos 0, Nat.succ_pos 0⟩ 0 :=
      { State.initial ⟨1, 1, Nat.succ_pos 0, Nat.succ_pos 0⟩ 0 ⟨0, 0⟩ with
        registers := (Vector.replicate registerCount 0).set 1 4
        screen := Vector.replicate 1 0x80 }
    let words : List Opcode := [⟨0xD001⟩, ⟨0xD101⟩]
    (∀ o ∈ words, o.DrawsApart) ∧
    (∃ t t', s.executeAll words = .ok t ∧ s.executeAll words.reverse = .ok t' ∧
      s.Superposed words t ∧ t'.screen = t.screen) ∧
    (∃ t, s.executeAll (words ++ words.reverse) = .ok t ∧ t.screen = s.screen) ∧
    (∃ t u, s.execute (Opcode.mk 0xD001).value = .ok t ∧
      t.execute (Opcode.mk 0xD001).value = .ok u ∧ u.register flagRegister = 1) ∧
    ∃ t u, s.execute (Opcode.mk 0x00E0).value = .ok t ∧
      t.execute (Opcode.mk 0xD001).value = .ok u ∧ u.register flagRegister = 0 := by
  intro s words
  have hwords : ∀ o ∈ words, o.DrawsApart := by decide
  have hperm : words.Perm words.reverse := words.reverse_perm.symm
  obtain ⟨hlist, hagain, hclear⟩ := s.sprites_superpose
  refine ⟨hwords, ?_, ?_, ?_, ?_⟩
  · obtain ⟨t, ht⟩ := (exists_executeAll_iff (s := s) hwords).mpr (by decide)
    obtain ⟨hdrawn, horder⟩ := (hlist words hwords).1 t ht
    obtain ⟨t', ht', heq, -⟩ := horder words.reverse hperm
    refine ⟨t, t', ht, ht', hdrawn, ?_⟩
    rw [heq]
  · have htwice : ∀ o ∈ words ++ words.reverse, o.DrawsApart := by
      simpa [or_imp] using hwords
    obtain ⟨t, ht⟩ := (exists_executeAll_iff (s := s) htwice).mpr (by decide)
    exact ⟨t, ht, (hlist words hwords).2 words words.reverse t (.refl words) hperm.symm ht⟩
  · let t := s.next ⟨0xD001⟩ .draw
    have hrow : Operation.draw.Matches (Opcode.mk 0xD001).word := by decide
    have ht : s.execute (Opcode.mk 0xD001).value = .ok t :=
      (execute_eq_ok_iff hrow).mpr ⟨by decide, rfl⟩
    have hu : t.execute (Opcode.mk 0xD001).value = .ok (t.next ⟨0xD001⟩ .draw) :=
      (execute_eq_ok_iff hrow).mpr ⟨by decide, rfl⟩
    refine ⟨t, _, ht, hu, (hagain ⟨0xD001⟩ t _ (by decide) ht hu).1.mpr ⟨0, (1 : Fin 8), ?_⟩⟩
    decide +kernel
  · let t := s.next ⟨0x00E0⟩ .clearScreen
    have hrow : Operation.draw.Matches (Opcode.mk 0xD001).word := by decide
    have hclearRow : Operation.clearScreen.Matches (Opcode.mk 0x00E0).word := by decide
    have ht : s.execute (Opcode.mk 0x00E0).value = .ok t :=
      (execute_eq_ok_iff hclearRow).mpr ⟨by decide, rfl⟩
    have hu : t.execute (Opcode.mk 0xD001).value = .ok (t.next ⟨0xD001⟩ .draw) :=
      (execute_eq_ok_iff hrow).mpr ⟨by decide, rfl⟩
    exact ⟨t, _, ht, hu, (hclear ⟨0xD001⟩ t _ hrow ht hu).1⟩

/-- A digit is drawn on a new screen three times. The last two draws are of the same word, and the
digit has set bits on the screen; but the second of them lights pixels that the first has put out,
and does not collide. -/
theorem redrawn_without_collision :
    let s₀ := State.initial ⟨1, 1, Nat.succ_pos 0, Nat.succ_pos 0⟩ 16 ⟨0, 0⟩
    let o : Opcode := ⟨0xD011⟩
    ∃ s t u, o.DrawsApart ∧ s₀.execute o.value = .ok s ∧
      s.execute o.value = .ok t ∧ t.execute o.value = .ok u ∧
      (∃ r c : Nat, r < 1 ∧ c < 8 ∧ s.spriteBit o.n2 o.n3 o.n4 r c = true) ∧
      u.register flagRegister ≠ 1 := by
  intro s₀ o
  have hrow : Operation.draw.Matches o.word := by decide
  let s := s₀.next o .draw
  let t := s.next o .draw
  have hs : s₀.execute o.value = .ok s := (execute_eq_ok_iff hrow).mpr ⟨by decide, rfl⟩
  have ht : s.execute o.value = .ok t := (execute_eq_ok_iff hrow).mpr ⟨by decide, rfl⟩
  have hu : t.execute o.value = .ok (t.next o .draw) :=
    (execute_eq_ok_iff hrow).mpr ⟨by decide, rfl⟩
  refine ⟨s, t, _, by decide, hs, ht, hu, ⟨0, 0, by decide, by decide, by decide +kernel⟩, ?_⟩
  decide +kernel

end State

end ChipEight
