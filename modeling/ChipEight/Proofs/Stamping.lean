import ChipEight.Proofs.Drawing
import ChipEight.Stamp

/-!
# Drawing is stamping

There are two ways to draw a sprite: to flip the pixels of an unpacked screen under a mask, and to
shift each row of the sprite over the one or two bytes of the packed screen that it meets. The
machine draws in the first way. This file proves that the second comes to the same screen and the
same flag, on screens of any size.

Both are compared on the grid: unpacking turns the exclusive or of packed screens into the flipping
of grids (`Screen.grid_stamped`), and the stamp of a sprite into its mask (`Sprite.grid_stamp`). A
screen is determined by its grid, so the packed screens agree as well. `State.DrawnBytewise` tells
the result byte by byte.
-/

namespace ChipEight

variable {g : Geometry} {capacity : Nat}

/-! ## The exclusive or of packed screens -/

theorem Byte.and_ne_zero_iff {a b : Byte} :
    a &&& b ≠ 0 ↔ ∃ j < 8, a.getMsbD j = true ∧ b.getMsbD j = true := by
  have hzero : a &&& b = 0 ↔ ∀ j < 8, (a.getMsbD j && b.getMsbD j) = false := by
    constructor
    · intro h j _
      rw [← BitVec.getMsbD_and, h]
      exact BitVec.getMsbD_zero
    · intro h
      refine BitVec.eq_of_getMsbD_eq fun j hj ↦ ?_
      rw [BitVec.getMsbD_and, h j hj]
      exact BitVec.getMsbD_zero.symm
  rw [ne_eq, hzero]
  simp only [Bool.and_eq_false_imp, Classical.not_forall, Bool.not_eq_false, exists_prop]

namespace Screen

theorem byte_stamped (s mark : Screen g) (k : Nat) :
    (s.stamped mark).byte k = s.byte k ^^^ mark.byte k := by
  by_cases hk : k < g.size
  · rw [byte_of_lt s hk, byte_of_lt mark hk]
    exact byte_ofFn _ ⟨k, hk⟩
  · have hk : g.size ≤ k := Nat.not_lt.mp hk
    rw [byte_of_le _ hk, byte_of_le _ hk, byte_of_le _ hk]
    rfl

theorem grid_stamped (s mark : Screen g) : (s.stamped mark).grid = s.grid.flip mark.grid := by
  funext r c
  rw [Grid.flip, grid_eq, grid_eq, grid_eq, byte_stamped, BitVec.getMsbD_xor]

theorem meets_iff {s mark : Screen g} :
    s.meets mark = true ↔ ∃ k < g.size, s.byte k &&& mark.byte k ≠ 0 := by
  rw [meets, decide_eq_true_eq]
  constructor
  · rintro ⟨k, h⟩
    refine ⟨k, k.isLt, ?_⟩
    rw [byte_of_lt s k.isLt, byte_of_lt mark k.isLt]
    exact h
  · rintro ⟨k, hk, h⟩
    rw [byte_of_lt s hk, byte_of_lt mark hk] at h
    exact ⟨⟨k, hk⟩, h⟩

theorem collides_grid (s mark : Screen g) : s.grid.collides mark.grid = s.meets mark := by
  rw [Bool.eq_iff_iff, Grid.collides_eq_true_iff, meets_iff]
  constructor
  · rintro ⟨r, c, hs, hmark⟩
    rw [grid_eq] at hs hmark
    have hc : (c : Nat) / 8 < g.rowBytes := Nat.div_lt_of_lt_mul c.isLt
    exact ⟨_, byte_place_lt r.isLt hc,
      Byte.and_ne_zero_iff.mpr ⟨c % 8, Nat.mod_lt _ (by decide), hs, hmark⟩⟩
  · rintro ⟨k, hk, h⟩
    obtain ⟨r, hr, q, hq, rfl⟩ := exists_byte_place hk
    -- bit `j` of byte `q` in a row is the pixel `8 * q + j` of that row
    obtain ⟨j, hj, hs, hmark⟩ := Byte.and_ne_zero_iff.mp h
    have hc : 8 * q + j < g.width := by
      rw [Geometry.width]
      omega
    have hdiv : (8 * q + j) / 8 = q := by omega
    have hmod : (8 * q + j) % 8 = j := by omega
    refine ⟨⟨r, hr⟩, ⟨8 * q + j, hc⟩, ?_, ?_⟩
    · rw [grid_eq]
      simpa only [hdiv, hmod] using hs
    · rw [grid_eq]
      simpa only [hdiv, hmod] using hmark

end Screen

/-! ## The stamp of a sprite -/

namespace Sprite

/-- The row of a sprite that comes to lie on a row of the screen. -/
def row (p : Sprite) (m : Memory) (r : Nat) : Byte := m.read (p.address + (r - p.top))

def Reaches (p : Sprite) (g : Geometry) (r : Nat) : Prop :=
  p.top ≤ r ∧ r < min (p.top + p.rows) g.height

theorem Reaches.lt_height {p : Sprite} {r : Nat} (h : p.Reaches g r) : r < g.height :=
  Nat.lt_of_lt_of_le h.2 (Nat.min_le_right ..)

theorem Reaches.within_rows {p : Sprite} {r : Nat} (h : p.Reaches g r) :
    p.top ≤ r ∧ r < p.top + p.rows :=
  ⟨h.1, Nat.lt_of_lt_of_le h.2 (Nat.min_le_left ..)⟩

theorem getMsbD_stampByte (p : Sprite) (m : Memory) (r k : Nat) {j : Nat} (hj : j < 8) :
    (p.stampByte m r k).getMsbD j =
      (decide (p.left ≤ 8 * k + j ∧ 8 * k + j < p.left + 8 ∧ p.top ≤ r ∧ r < p.top + p.rows) &&
        (p.row m r).getMsbD (8 * k + j - p.left)) := by
  by_cases hrow : p.top ≤ r ∧ r < p.top + p.rows
  case neg =>
    rw [stampByte, if_neg hrow, decide_eq_false fun h ↦ hrow h.2.2, Bool.false_and]
    exact BitVec.getMsbD_zero
  rw [stampByte, if_pos hrow]
  by_cases hnear : k = p.left / 8
  · -- the row begins in this byte
    have hreach : (p.left ≤ 8 * k + j ∧ 8 * k + j < p.left + 8 ∧
        p.top ≤ r ∧ r < p.top + p.rows) ↔ ¬j < p.left % 8 := by omega
    have hbit : 8 * k + j - p.left = j - p.left % 8 := by omega
    rw [if_pos hnear, BitVec.getMsbD_ushiftRight, decide_eq_true hj, Bool.true_and,
      decide_eq_decide.mpr hreach, decide_not, hbit]
    rfl
  rw [if_neg hnear]
  by_cases hfar : k = p.left / 8 + 1 ∧ 0 < p.left % 8
  · -- the row ends in this byte
    have hbit : 8 * k + j - p.left = j + (8 - p.left % 8) := by omega
    rw [if_pos hfar, BitVec.getMsbD_shiftLeft, hbit]
    by_cases hto : j < p.left % 8
    · rw [decide_eq_true (by omega), Bool.true_and]
      rfl
    · rw [decide_eq_false (by omega), Bool.false_and]
      exact BitVec.getMsbD_of_ge _ _ (by omega)
  · -- the row lies elsewhere
    rw [if_neg hfar, decide_eq_false (by omega), Bool.false_and]
    exact BitVec.getMsbD_zero

theorem byte_stamp (p : Sprite) (m : Memory) {k : Nat} (hk : k < g.size) :
    (p.stamp m : Screen g).byte k = p.stampByte m (k / g.rowBytes) (k % g.rowBytes) :=
  Screen.byte_ofFn _ ⟨k, hk⟩

theorem byte_stamp_place (p : Sprite) (m : Memory) {r k : Nat} (hr : r < g.height)
    (hk : k < g.rowBytes) :
    (p.stamp m : Screen g).byte (r * g.rowBytes + k) = p.stampByte m r k := by
  rw [byte_stamp p m (Screen.byte_place_lt hr hk), Screen.byte_place_div hk,
    Screen.byte_place_mod hk]

theorem grid_stamp (p : Sprite) (m : Memory) : (p.stamp m : Screen g).grid = p.mask m := by
  funext r c
  have hc : (c : Nat) / 8 < g.rowBytes := Nat.div_lt_of_lt_mul c.isLt
  rw [Screen.grid_eq, byte_stamp_place p m r.isLt hc,
    getMsbD_stampByte p m r _ (Nat.mod_lt _ (by decide)), Nat.div_add_mod]
  rfl

theorem stampByte_near {p : Sprite} {r : Nat} (m : Memory) (hr : p.Reaches g r) :
    p.stampByte m r (p.left / 8) = p.row m r >>> (p.left % 8) := by
  rw [stampByte, if_pos hr.within_rows, if_pos rfl]
  rfl

theorem stampByte_far {p : Sprite} {r : Nat} (m : Memory) (hr : p.Reaches g r)
    (hshift : 0 < p.left % 8) :
    p.stampByte m r (p.left / 8 + 1) = p.row m r <<< (8 - p.left % 8) := by
  rw [stampByte, if_pos hr.within_rows, if_neg (Nat.succ_ne_self _), if_pos ⟨rfl, hshift⟩]
  rfl

/-- A byte in which a stamp has a bit is one of the two that a row of the sprite meets. -/
theorem reaches_of_stampByte_ne_zero {p : Sprite} {m : Memory} {r k : Nat} (hr : r < g.height)
    (h : p.stampByte m r k ≠ 0) :
    p.Reaches g r ∧ (k = p.left / 8 ∨ k = p.left / 8 + 1 ∧ 0 < p.left % 8) := by
  rw [stampByte] at h
  by_cases hrow : p.top ≤ r ∧ r < p.top + p.rows
  case neg => exact absurd (if_neg hrow) h
  refine ⟨⟨hrow.1, Nat.lt_min.mpr ⟨hrow.2, hr⟩⟩, ?_⟩
  rw [if_pos hrow] at h
  by_cases hnear : k = p.left / 8
  · exact .inl hnear
  · by_cases hfar : k = p.left / 8 + 1 ∧ 0 < p.left % 8
    · exact .inr hfar
    · simp only [hnear, hfar, if_false, ne_eq, not_true_eq_false] at h

theorem byte_stamp_eq_zero {p : Sprite} {m : Memory} {k : Nat}
    (hk : ∀ r, p.Reaches g r → k ≠ r * g.rowBytes + p.left / 8 ∧
      (0 < p.left % 8 → p.left / 8 + 1 < g.rowBytes →
        k ≠ r * g.rowBytes + p.left / 8 + 1)) :
    (p.stamp m : Screen g).byte k = 0 := by
  by_cases hsize : k < g.size
  case neg => exact Screen.byte_of_le _ (Nat.not_lt.mp hsize)
  obtain ⟨r, hr, c, hc, rfl⟩ := Screen.exists_byte_place hsize
  rw [byte_stamp_place p m hr hc]
  refine Decidable.byContradiction fun hne ↦ ?_
  obtain ⟨hreach, rfl | ⟨rfl, hshift⟩⟩ := reaches_of_stampByte_ne_zero hr hne
  · exact (hk r hreach).1 rfl
  · exact (hk r hreach).2 hshift hc rfl

/-- A stamp meets a lit pixel just if a row of the sprite does, shifted over its bytes. -/
theorem meets_stamp_iff {p : Sprite} {m : Memory} {s : Screen g}
    (hp : p.left / 8 < g.rowBytes) :
    s.meets (p.stamp m) = true ↔ ∃ r, p.Reaches g r ∧
      (s.byte (r * g.rowBytes + p.left / 8) &&& (p.row m r >>> (p.left % 8)) ≠ 0 ∨
        0 < p.left % 8 ∧ p.left / 8 + 1 < g.rowBytes ∧
          s.byte (r * g.rowBytes + p.left / 8 + 1) &&&
            (p.row m r <<< (8 - p.left % 8)) ≠ 0) := by
  rw [Screen.meets_iff]
  constructor
  · rintro ⟨k, hk, hne⟩
    obtain ⟨r, hr, c, hc, rfl⟩ := Screen.exists_byte_place hk
    rw [byte_stamp_place p m hr hc] at hne
    have hstamp : p.stampByte m r c ≠ 0 := fun hzero ↦ hne (by rw [hzero]; exact BitVec.and_zero)
    obtain ⟨hreach, rfl | ⟨rfl, hshift⟩⟩ := reaches_of_stampByte_ne_zero hr hstamp
    · rw [stampByte_near m hreach] at hne
      exact ⟨r, hreach, .inl hne⟩
    · rw [stampByte_far m hreach hshift] at hne
      exact ⟨r, hreach, .inr ⟨hshift, hc, hne⟩⟩
  · rintro ⟨r, hreach, hne | ⟨hshift, hc, hne⟩⟩
    · refine ⟨_, Screen.byte_place_lt hreach.lt_height hp, ?_⟩
      rwa [byte_stamp_place p m hreach.lt_height hp, stampByte_near m hreach]
    · refine ⟨_, Screen.byte_place_lt hreach.lt_height hc, ?_⟩
      rwa [byte_stamp_place p m hreach.lt_height hc, stampByte_far m hreach hshift]

end Sprite

namespace State

/-! ## The machine -/

/-- The state with a sprite stamped on the screen, the flag set if the stamp meets a lit pixel, and
the program counter moved on. -/
def stamped (s : State g capacity) (p : Sprite) : State g capacity :=
  { s with
    screen := s.screen.stamped (p.stamp s.memory)
    registers := s.registers.set flagRegister (if s.screen.meets (p.stamp s.memory) then 1 else 0)
    pc := BitVec.ofNat 16 ((s.pc.toNat + 2) % 0x1000) }

/-- Flipping pixels under a mask and stamping bytes are the same. -/
theorem drawn_eq_stamped (s : State g capacity) (p : Sprite) :
    (s.drawn p).proceed = s.stamped p := by
  rw [proceed_eq, drawn, stamped, ← Sprite.grid_stamp, Screen.collides_grid, ← Screen.grid_stamped,
    Screen.ofGrid_grid]
  rfl

/-- That one state comes from another by shifting the rows of a sprite over the bytes of the screen.
Each row meets the byte in which it begins, and if it is not aligned the byte after it, unless the
screen ends there. -/
structure DrawnBytewise (s : State g capacity) (p : Sprite) (t : State g capacity) : Prop where
  /-- What a row does to the byte in which it begins. -/
  near : ∀ r, p.Reaches g r →
    t.screen.byte (r * g.rowBytes + p.left / 8) =
      s.screen.byte (r * g.rowBytes + p.left / 8) ^^^ (p.row s.memory r >>> (p.left % 8))
  /-- What a row does to the byte after it. -/
  far : ∀ r, p.Reaches g r → 0 < p.left % 8 → p.left / 8 + 1 < g.rowBytes →
    t.screen.byte (r * g.rowBytes + p.left / 8 + 1) =
      s.screen.byte (r * g.rowBytes + p.left / 8 + 1) ^^^
        (p.row s.memory r <<< (8 - p.left % 8))
  /-- Every other byte keeps its value. -/
  rest : ∀ k,
    (∀ r, p.Reaches g r → k ≠ r * g.rowBytes + p.left / 8 ∧
      (0 < p.left % 8 → p.left / 8 + 1 < g.rowBytes →
        k ≠ r * g.rowBytes + p.left / 8 + 1)) →
    t.screen.byte k = s.screen.byte k
  /-- No row runs over into the first byte of the next one. -/
  margin : ∀ r, (p.Reaches g r → 0 < p.left / 8) →
    t.screen.byte (r * g.rowBytes) = s.screen.byte (r * g.rowBytes)
  /-- The flag is set if one of these bytes has a bit in common with what is shifted over it. -/
  flag_eq_one : t.register flagRegister = 1 ↔ ∃ r, p.Reaches g r ∧
    (s.screen.byte (r * g.rowBytes + p.left / 8) &&& (p.row s.memory r >>> (p.left % 8)) ≠ 0 ∨
      0 < p.left % 8 ∧ p.left / 8 + 1 < g.rowBytes ∧
        s.screen.byte (r * g.rowBytes + p.left / 8 + 1) &&&
          (p.row s.memory r <<< (8 - p.left % 8)) ≠ 0)
  /-- Otherwise it is cleared. -/
  flag_eq_zero : t.register flagRegister = 0 ↔ t.register flagRegister ≠ 1

theorem spriteAt_left_lt (s : State g capacity) (x y : Fin registerCount) (rows : Nat) :
    (s.spriteAt x y rows).left / 8 < g.rowBytes :=
  Nat.div_lt_of_lt_mul (Nat.mod_lt _ g.width_pos)

theorem drawnBytewise_stamped (s : State g capacity) {p : Sprite} (hp : p.left / 8 < g.rowBytes) :
    s.DrawnBytewise p (s.stamped p) where
  near r hr := by
    refine (Screen.byte_stamped ..).trans (congrArg _ ?_)
    rw [Sprite.byte_stamp_place p _ hr.lt_height hp, Sprite.stampByte_near _ hr]
  far r hr hshift hfar := by
    refine (Screen.byte_stamped ..).trans (congrArg _ ?_)
    rw [Nat.add_assoc, Sprite.byte_stamp_place p _ hr.lt_height hfar,
      Sprite.stampByte_far _ hr hshift]
  rest k hk := by
    refine (Screen.byte_stamped ..).trans ?_
    rw [Sprite.byte_stamp_eq_zero hk]
    exact BitVec.xor_zero
  margin r hr := by
    refine (Screen.byte_stamped ..).trans ?_
    rw [Sprite.byte_stamp_eq_zero]
    · exact BitVec.xor_zero
    intro r' hreach
    -- a byte at the left edge could only be the first of a row of the sprite
    refine ⟨fun heq ↦ ?_, fun _ hfar heq ↦ ?_⟩
    · obtain ⟨rfl, hzero⟩ := Screen.byte_place_inj g.rowBytes_pos hp heq
      exact Nat.ne_of_lt (hr hreach) hzero
    · obtain ⟨-, hzero⟩ := Screen.byte_place_inj g.rowBytes_pos hfar heq
      exact absurd hzero.symm (Nat.succ_ne_zero _)
  flag_eq_one := (setFlag_eq_one_iff s).trans (Sprite.meets_stamp_iff hp)
  flag_eq_zero := by
    refine (setFlag_eq_zero_iff s).trans ?_
    rw [ne_eq, ← Bool.not_eq_true]
    exact not_congr (setFlag_eq_one_iff s).symm

/-- **Drawing is stamping.** An instruction that draws leaves the state with the sprite stamped on
the packed screen: the rows of the sprite are shifted over the bytes that they meet, nothing else on
the screen changes, and the flag tells whether one of the bytes had a bit in common with what was
shifted over it. -/
theorem drawing_is_stamping (s t : State g capacity) (i : Instruction)
    (hop : i.operation = .draw) (h : s.executeInstruction i = .ok t) :
    let p : Sprite :=
      { address := s.index.toNat
        rows := i.n.toNat
        left := (s.registers.get i.x).toNat % g.width
        top := (s.registers.get i.y).toNat % g.height }
    t = s.stamped p ∧ s.DrawnBytewise p t := by
  intro p
  have ht : t = s.stamped p := by
    rw [eq_of_executeInstruction_draw hop h, drawn_eq_stamped]
    rfl
  refine ⟨ht, ?_⟩
  rw [ht]
  exact s.drawnBytewise_stamped (s.spriteAt_left_lt i.x i.y i.n.toNat)

/-- A sprite over the right edge of a small screen, all of it lit. Its rows are not aligned, and
what is cut off does not turn up at the left edge one row further down. -/
theorem drawing_is_stamping_of_edge :
    let s : State ⟨2, 3, Nat.succ_pos 1, Nat.succ_pos 2⟩ 16 :=
      { State.initial ⟨2, 3, Nat.succ_pos 1, Nat.succ_pos 2⟩ 16 ⟨0, 0⟩ with
        registers := Vector.replicate registerCount 13
        screen := Vector.replicate 6 0xFF }
    let p : Sprite := { address := 0, rows := 5, left := 13, top := 1 }
    ∃ t, s.executeInstruction { operation := .draw, x := 0, y := 1, n := 5 } = .ok t ∧
      t = s.stamped p ∧ s.DrawnBytewise p t ∧
      t.screen.toList = [0xFF, 0xFF, 0xFF, 0xF8, 0xFF, 0xFB] ∧ t.register flagRegister = 1 := by
  intro s p
  have hfits : (0 < 5 → s.index.toNat + 5 ≤ memorySize) ∧
      ((⟨2, 3, Nat.succ_pos 1, Nat.succ_pos 2⟩ : Geometry).width < 0x80000000 ∧
        3 < 0x80000000) ∧ (s.pc.toNat + 2) % 0x1000 + 2 ≤ memorySize := by decide
  obtain ⟨t, ht⟩ := (s.exists_executeInstruction_draw
    (i := { operation := .draw, x := 0, y := 1, n := 5 }) rfl rfl).mpr hfits
  obtain ⟨hstamped, hbytes⟩ := s.drawing_is_stamping t _ rfl ht
  have hp : s.spriteAt 0 1 5 = p := by decide +kernel
  change t = s.stamped (s.spriteAt 0 1 5) at hstamped
  change s.DrawnBytewise (s.spriteAt 0 1 5) t at hbytes
  rw [hp] at hstamped hbytes
  refine ⟨t, ht, hstamped, hbytes, ?_, ?_⟩
  · rw [hstamped]
    decide +kernel
  · rw [hstamped]
    decide +kernel

end State

end ChipEight
