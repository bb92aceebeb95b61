import ChipEight.Proofs.History

/-!
# Loading is an overlay

A program is laid over memory from the start of the program area on. Either the whole of it is put
there and nothing else changes, which is `State.Overlaid`, or it is too long and nothing changes at
all. This determines the state after loading: `State.loadRom_eq_ok_iff` says that loading succeeds
with exactly the overlaid state, and what follows does not look at how bytes are written any more.

Memory behind a program is not cleared. So a program that is loaded over a longer one leaves the end
of the longer one in place, and the two orders of events, loading one or loading both, differ in
that end and nowhere else.
-/

namespace ChipEight

variable {g : Geometry} {capacity : Nat}

namespace State

/-- That one state comes from another by laying a program over memory. -/
structure Overlaid (s : State g capacity) (rom : List Byte) (t : State g capacity) : Prop where
  /-- The program stands in its place. -/
  byte_eq : ∀ (i : Nat) (h : i < rom.length), t.memory.read (0x200 + i) = rom[i]
  /-- The bytes before and behind it are as they were. -/
  rest_eq : ∀ a, a < 0x200 ∨ 0x200 + rom.length ≤ a → t.memory.read a = s.memory.read a
  /-- Nothing else changes. -/
  eq_with : t = { s with memory := t.memory }

section Overlaid

variable {s t t' u : State g capacity} {rom A B : List Byte}

theorem overlaid_write (h : rom.length ≤ maxRomSize) :
    s.Overlaid rom { s with memory := s.memory.write programStart rom } where
  byte_eq i hi := by
    have hlt : programStart + i < memorySize := by
      simp only [programStart, memorySize, maxRomSize] at h ⊢
      omega
    exact s.memory.read_write (List.getElem?_eq_getElem hi) hlt
  rest_eq a ha := by
    refine Memory.read_write_of_not_mem _ ?_
    rw [programStart]
    omega
  eq_with := rfl

/-- An overlay determines the state. -/
theorem Overlaid.unique (h : s.Overlaid rom t) (h' : s.Overlaid rom t') : t = t' := by
  have hmemory : t.memory = t'.memory := by
    apply Memory.eq_of_read_eq
    intro a _
    by_cases ha : a < 0x200 ∨ 0x200 + rom.length ≤ a
    · rw [h.rest_eq a ha, h'.rest_eq a ha]
    · obtain ⟨i, rfl⟩ : ∃ i, a = 0x200 + i := ⟨a - 0x200, by omega⟩
      have hi : i < rom.length := by omega
      rw [h.byte_eq i hi, h'.byte_eq i hi]
  calc t = { s with memory := t.memory } := h.eq_with
    _ = { s with memory := t'.memory } := by rw [hmemory]
    _ = t' := h'.eq_with.symm

theorem Overlaid.read_eq_of_outside (h : s.Overlaid rom t) (hlen : rom.length ≤ 0x400) {a : Nat}
    (ha : a < 0x200 ∨ 0x600 ≤ a) : t.memory.read a = s.memory.read a :=
  h.rest_eq a (by omega)

/-! ## One program over another -/

theorem Overlaid.read_of_le (h : s.Overlaid A t) (hu : t.Overlaid B u) {i : Nat}
    (hi : i < A.length) (hle : B.length ≤ i) : u.memory.read (0x200 + i) = A[i] := by
  rw [hu.rest_eq _ (by omega), h.byte_eq i hi]

theorem Overlaid.read_of_rest (h : s.Overlaid A t) (hu : t.Overlaid B u) {a : Nat}
    (ha : a < 0x200 ∨ (0x200 + A.length ≤ a ∧ 0x200 + B.length ≤ a)) :
    u.memory.read a = s.memory.read a := by
  rw [hu.rest_eq a (by omega), h.rest_eq a (by omega)]

/-- The program that is laid under makes no difference if what shows of it was there before. -/
theorem Overlaid.over_iff (h : s.Overlaid A t) (hu : t.Overlaid B u) :
    s.Overlaid B u ↔ ∀ (i : Nat) (hi : i < A.length), B.length ≤ i →
      A[i] = s.memory.read (0x200 + i) := by
  constructor
  · intro hs i hi hle
    rw [← h.read_of_le hu hi hle, hs.rest_eq _ (by omega)]
  · intro htail
    refine ⟨hu.byte_eq, fun a ha ↦ ?_, ?_⟩
    · by_cases hA : a < 0x200 ∨ 0x200 + A.length ≤ a
      · exact h.read_of_rest hu (by omega)
      · obtain ⟨i, rfl⟩ : ∃ i, a = 0x200 + i := ⟨a - 0x200, by omega⟩
        have hi : i < A.length := by omega
        have hle : B.length ≤ i := by omega
        rw [h.read_of_le hu hi hle, htail i hi hle]
    · calc u = { t with memory := u.memory } := hu.eq_with
        _ = { s with memory := u.memory } := by rw [h.eq_with]

end Overlaid

/-! ## Loading -/

section Loading

variable {s t : State g capacity} {rom A : List Byte}

theorem loadRom_eq_error_iff {f : Fault} :
    s.loadRom rom = .error f ↔
      0x400 < rom.length ∧ f = { cause := .oversizedRom rom.length 0x400 } := by
  rw [loadRom, maxRomSize]
  split <;> simp [*, eq_comm]

/-- A program that is short enough is loaded, and loading it is the overlay. -/
theorem loadRom_eq_ok_iff :
    s.loadRom rom = .ok t ↔ rom.length ≤ 0x400 ∧ s.Overlaid rom t := by
  constructor
  · intro h
    obtain ⟨hle, rfl⟩ := eq_of_loadRom h
    exact ⟨hle, overlaid_write hle⟩
  · rintro ⟨hle, h⟩
    have hnot : ¬maxRomSize < rom.length := Nat.not_lt.mpr hle
    rw [loadRom, if_neg hnot, h.unique (overlaid_write hle)]

theorem exists_loadRom_iff : (∃ t, s.loadRom rom = .ok t) ↔ rom.length ≤ 0x400 := by
  constructor
  · rintro ⟨t, h⟩
    exact (loadRom_eq_ok_iff.mp h).1
  · intro hle
    exact ⟨_, loadRom_eq_ok_iff.mpr ⟨hle, overlaid_write hle⟩⟩

theorem loadRom_eq_iff (h : s.loadRom A = .ok t) (B : List Byte) :
    t.loadRom B = s.loadRom B ↔
      ∀ (i : Nat) (hi : i < A.length), B.length ≤ i → A[i] = s.memory.read (0x200 + i) := by
  obtain ⟨hA, ht⟩ := loadRom_eq_ok_iff.mp h
  by_cases hB : B.length ≤ 0x400
  · obtain ⟨u, hu⟩ := exists_loadRom_iff.mpr hB
    rw [hu, ← ht.over_iff (loadRom_eq_ok_iff.mp hu).2, eq_comm, loadRom_eq_ok_iff,
      and_iff_right hB]
  · -- both are refused, and nothing of the first program would show
    have herror (s : State g capacity) :
        s.loadRom B = .error { cause := .oversizedRom B.length 0x400 } :=
      loadRom_eq_error_iff.mpr ⟨Nat.not_le.mp hB, rfl⟩
    rw [herror t, herror s]
    exact iff_of_true rfl fun i hi hle ↦ by omega

theorem loadRom_eq_of_length_le (h : s.loadRom A = .ok t) {B : List Byte}
    (hle : A.length ≤ B.length) : t.loadRom B = s.loadRom B :=
  (loadRom_eq_iff h B).mpr fun i hi hi' ↦ by omega

theorem loadRomFile_of_read (s : State g capacity) {files : Storage} {name : String}
    (h : files.read name = .ok rom) :
    s.loadRomFile files name = (s.loadRom rom).mapError .fault := by
  rw [loadRomFile, h]

end Loading

end State

/-! ## Machines -/

namespace Machine

/-- That the outcome of an operation is the outcome of loading a program: it is laid over memory as
a whole, or refused as too long. -/
structure LoadsAll (m : Machine g capacity) (rom : List Byte) (o : Outcome g capacity Unit) :
    Prop where
  /-- A program that is too long is refused, and the machine is as it was. -/
  refused : 0x400 < rom.length →
    o = m.refuse (.fault { cause := .oversizedRom rom.length 0x400 })
  /-- Any other program is taken. -/
  result_eq : rom.length ≤ 0x400 → o.result = .ok ()
  /-- It is laid over memory. -/
  overlaid : rom.length ≤ 0x400 → m.state.Overlaid rom o.machine.state
  /-- The machine is of the same make. -/
  seed_eq : o.machine.seed = m.seed

section LoadsAll

variable {m : Machine g capacity} {rom : List Byte} {o : Outcome g capacity Unit}

theorem loadsAll_of_loadRom
    (hok : ∀ t, m.state.loadRom rom = .ok t → ∃ message, o = m.announce t .info message (.ok ()))
    (herror : ∀ f, m.state.loadRom rom = .error f → o = m.refuse (.fault f)) :
    m.LoadsAll rom o := by
  cases h : m.state.loadRom rom with
  | error f =>
    obtain ⟨hlt, rfl⟩ := State.loadRom_eq_error_iff.mp h
    obtain rfl := herror _ h
    exact ⟨fun _ ↦ rfl, fun hle ↦ by omega, fun hle ↦ by omega, rfl⟩
  | ok t =>
    obtain ⟨hle, ht⟩ := State.loadRom_eq_ok_iff.mp h
    obtain ⟨message, rfl⟩ := hok t h
    exact ⟨fun hlt ↦ by omega, fun _ ↦ rfl, fun _ ↦ ht, rfl⟩

theorem loadsAll_loadRom (m : Machine g capacity) (rom : List Byte) :
    m.LoadsAll rom (m.loadRom rom) := by
  apply loadsAll_of_loadRom
  · intro t h
    exact ⟨_, by rw [loadRom, h]⟩
  · intro f h
    rw [loadRom, h]

theorem loadsAll_loadRomFile (m : Machine g capacity) {files : Storage} {name : String}
    (hread : files.read name = .ok rom) : m.LoadsAll rom (m.loadRomFile files name) := by
  have hfile := m.state.loadRomFile_of_read hread
  apply loadsAll_of_loadRom
  · intro t h
    exact ⟨_, by rw [loadRomFile, hfile, h]; rfl⟩
  · intro f h
    rw [loadRomFile, hfile, h]
    rfl

/-- Wherever a program comes from, the machine answers alike and is left in the same state. -/
theorem LoadsAll.alike {o' : Outcome g capacity Unit} (h : m.LoadsAll rom o)
    (h' : m.LoadsAll rom o') : o.result = o'.result ∧ o.machine.state = o'.machine.state := by
  by_cases hle : rom.length ≤ 0x400
  · have hresult : o.result = o'.result := by rw [h.result_eq hle, h'.result_eq hle]
    exact ⟨hresult, (h.overlaid hle).unique (h'.overlaid hle)⟩
  · have hlt := Nat.not_le.mp hle
    rw [h.refused hlt, h'.refused hlt]
    exact ⟨rfl, rfl⟩

end LoadsAll

end Machine

namespace State

/-- **Loading is all or nothing.** A program is refused exactly when it is too long, and then
everything stays as it was; otherwise it is laid over memory. Of a program that is loaded over
another one, what is behind its end shows, and that is all the difference it makes to have loaded
the other one. From a readable file, a program is loaded as from memory of the host. -/
theorem loading_overlays (s : State g capacity) (A : List Byte) :
    ((∃ f, s.loadRom A = .error f) ↔ 0x400 < A.length) ∧
    (∀ f, s.loadRom A = .error f → f = { cause := .oversizedRom A.length 0x400 }) ∧
    (∀ t, s.loadRom A = .ok t →
      s.Overlaid A t ∧
      (∀ a, a < 0x200 ∨ 0x600 ≤ a → t.memory.read a = s.memory.read a) ∧
      t.loadRom A = .ok t ∧
      ∀ B : List Byte,
        (∀ u, t.loadRom B = .ok u →
          t.Overlaid B u ∧
          (∀ (i : Nat) (hi : i < A.length), B.length ≤ i →
            u.memory.read (0x200 + i) = A[i]) ∧
          ∀ a, a < 0x200 ∨ (0x200 + A.length ≤ a ∧ 0x200 + B.length ≤ a) →
            u.memory.read a = s.memory.read a) ∧
        (t.loadRom B = s.loadRom B ↔ ∀ (i : Nat) (hi : i < A.length), B.length ≤ i →
          A[i] = s.memory.read (0x200 + i)) ∧
        (A.length ≤ B.length → t.loadRom B = s.loadRom B)) ∧
    (∀ (files : Storage) (name : String), files.read name = .ok A →
      s.loadRomFile files name = (s.loadRom A).mapError .fault) ∧
    ∀ m : Machine g capacity, m.LoadsAll A (m.loadRom A) ∧
      ∀ (files : Storage) (name : String), files.read name = .ok A →
        m.LoadsAll A (m.loadRomFile files name) ∧
        (m.loadRomFile files name).result = (m.loadRom A).result ∧
        (m.loadRomFile files name).machine.state = (m.loadRom A).machine.state := by
  refine ⟨?refused, ?told, ?taken, ?fromFile, ?machine⟩
  case refused => simp only [loadRom_eq_error_iff, exists_and_left, exists_eq, and_true]
  case told =>
    intro f h
    exact (loadRom_eq_error_iff.mp h).2
  case taken =>
    intro t h
    obtain ⟨hA, ht⟩ := loadRom_eq_ok_iff.mp h
    -- loading once more is loading a program that is no longer than the first
    have hagain : t.loadRom A = .ok t := (loadRom_eq_of_length_le h (Nat.le_refl _)).trans h
    refine ⟨ht, fun a ha ↦ ht.read_eq_of_outside hA ha, hagain, ?_⟩
    intro B
    refine ⟨?_, loadRom_eq_iff h B, loadRom_eq_of_length_le h⟩
    intro u hB
    obtain ⟨-, hu⟩ := loadRom_eq_ok_iff.mp hB
    exact ⟨hu, fun i hi hle ↦ ht.read_of_le hu hi hle, fun a ha ↦ ht.read_of_rest hu ha⟩
  case fromFile =>
    intro files name hread
    exact s.loadRomFile_of_read hread
  case machine =>
    intro m
    refine ⟨m.loadsAll_loadRom A, ?_⟩
    intro files name hread
    have hfile := m.loadsAll_loadRomFile hread
    exact ⟨hfile, hfile.alike (m.loadsAll_loadRom A)⟩

/-- A program over a longer one that shows behind it, one over a longer one whose end was there
before, one that is too long, and one from a file. -/
theorem loading_overlays_of_shorter_program :
    let s := State.initial ⟨1, 1, Nat.succ_pos 0, Nat.succ_pos 0⟩ 0 ⟨0, 0⟩
    let files : Storage := ⟨fun _ ↦ .ok [1, 2, 3], fun _ ↦ .ok ()⟩
    (∃ t u, s.loadRom [1, 2, 3] = .ok t ∧ s.Overlaid [1, 2, 3] t ∧ t.loadRom [9] = .ok u ∧
      u.memory.read 0x202 = 3 ∧ t.loadRom [9] ≠ s.loadRom [9]) ∧
    (∃ t, s.loadRom [1, 0] = .ok t ∧ t.loadRom [9] = s.loadRom [9]) ∧
    (∃ f, s.loadRom (List.replicate 0x401 0) = .error f) ∧
    s.loadRomFile files "program" = (s.loadRom [1, 2, 3]).mapError .fault := by
  intro s files
  obtain ⟨-, -, hlong, hfile, -⟩ := s.loading_overlays [1, 2, 3]
  refine ⟨?_, ?_, (s.loading_overlays _).1.mpr (by rw [List.length_replicate]; decide),
    hfile files "program" rfl⟩
  · obtain ⟨t, ht⟩ : ∃ t, s.loadRom [1, 2, 3] = .ok t := exists_loadRom_iff.mpr (by decide)
    obtain ⟨u, hu⟩ : ∃ u, t.loadRom [9] = .ok u := exists_loadRom_iff.mpr (by decide)
    obtain ⟨hoverlaid, -, -, hover⟩ := hlong t ht
    obtain ⟨hshown, hsame, -⟩ := hover [9]
    have hlast : u.memory.read 0x202 = 3 := (hshown u hu).2.1 2 (by decide) (by decide)
    refine ⟨t, u, ht, hoverlaid, hu, hlast, fun heq ↦ ?_⟩
    have htail := hsame.mp heq 2 (by decide) (by decide)
    revert htail
    decide +kernel
  · obtain ⟨t, ht⟩ : ∃ t, s.loadRom [1, 0] = .ok t := exists_loadRom_iff.mpr (by decide)
    obtain ⟨-, hsame, -⟩ := ((s.loading_overlays [1, 0]).2.2.1 t ht).2.2.2 [9]
    have hzero : s.memory.read 0x201 = 0 := by decide +kernel
    refine ⟨t, ht, hsame.mpr fun i hi hle ↦ ?_⟩
    obtain rfl : i = 1 := Nat.le_antisymm (Nat.le_of_lt_succ hi) hle
    exact hzero.symm

end State

end ChipEight
