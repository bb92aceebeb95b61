import ChipEight.Failure

/-!
# Memory

Memory is a row of 4095 bytes. It is read byte by byte and written in blocks, and every block that
an instruction touches is checked first: a fault is reported before anything is read or written.

A read outside memory gives zero and a write outside it has no effect. Neither happens behind a
check; they are defined so that reading and writing are total, and the lemmas below say what a
block write does to every address.
-/

namespace ChipEight

/-- The bytes of the machine. -/
abbrev Memory := Vector Byte memorySize

namespace Memory

def read (m : Memory) (a : Nat) : Byte := m[a]?.getD 0

def write (m : Memory) (a : Nat) : List Byte → Memory
  | [] => m
  | b :: bs => write (m.setIfInBounds a b) (a + 1) bs

/-- Reports a block that does not lie wholly inside memory. An empty block lies anywhere. -/
def checkRange (start length : Int) : Except Fault Unit :=
  if 0 < length ∧ (start < 0 ∨ memorySize < start + length) then
    .error (.memoryAccess start length)
  else .ok ()

/-- Memory before a program is loaded: the glyphs of the digits, and zeros. -/
def initial : Memory := write (Vector.replicate memorySize 0) fontStart fontData

theorem read_of_lt (m : Memory) {a : Nat} (h : a < memorySize) : m.read a = m[a] := by
  simp [read, h]

/-- **Block writes.** A write changes the addresses of its block and no others. -/
theorem getElem_write (m : Memory) (a : Nat) (bs : List Byte) {i : Nat} (hi : i < memorySize) :
    (m.write a bs)[i] = if h : a ≤ i ∧ i < a + bs.length then bs[i - a] else m[i] := by
  induction bs generalizing m a with
  | nil => simp [write, show ¬(a ≤ i ∧ i < a) by omega]
  | cons b bs ih =>
    rw [write, ih]
    by_cases h : a + 1 ≤ i ∧ i < a + 1 + bs.length
    · obtain ⟨k, rfl⟩ : ∃ k, i = a + 1 + k := ⟨i - (a + 1), by omega⟩
      have hk : a ≤ a + 1 + k ∧ a + 1 + k < a + (b :: bs).length := by
        rw [List.length_cons]
        omega
      rw [dif_pos h, dif_pos hk]
      simp [show a + 1 + k - a = k + 1 by omega]
    · rw [dif_neg h]
      by_cases e : a = i
      · subst e
        simp
      · have hk : ¬(a ≤ i ∧ i < a + (b :: bs).length) := by
          rw [List.length_cons]
          omega
        rw [dif_neg hk]
        exact Vector.getElem_setIfInBounds_ne hi e

theorem read_of_le (m : Memory) {a : Nat} (h : memorySize ≤ a) : m.read a = 0 := by
  rw [read, Vector.getElem?_eq_none h, Option.getD_none]

theorem eq_of_read_eq {m m' : Memory} (h : ∀ a, a < memorySize → m.read a = m'.read a) :
    m = m' := by
  refine Vector.ext fun a ha ↦ ?_
  rw [← read_of_lt m ha, ← read_of_lt m' ha]
  exact h a ha

theorem read_write (m : Memory) {a i : Nat} {bs : List Byte} {b : Byte} (h : bs[i]? = some b)
    (hlt : a + i < memorySize) : (m.write a bs).read (a + i) = b := by
  obtain ⟨hi, rfl⟩ := List.getElem?_eq_some_iff.mp h
  have hblock : a ≤ a + i ∧ a + i < a + bs.length := by omega
  rw [read_of_lt _ hlt, getElem_write, dif_pos hblock]
  simp only [Nat.add_sub_cancel_left]

theorem read_write_of_not_mem (m : Memory) {a i : Nat} {bs : List Byte}
    (h : ¬(a ≤ i ∧ i < a + bs.length)) : (m.write a bs).read i = m.read i := by
  by_cases hi : i < memorySize
  · rw [read_of_lt _ hi, read_of_lt _ hi, getElem_write, dif_neg h]
  · have hle : memorySize ≤ i := Nat.not_lt.mp hi
    rw [read_of_le _ hle, read_of_le _ hle]

end Memory

end ChipEight
