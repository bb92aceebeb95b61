import ChipEight.CallStack

/-!
# Pushing and popping apart from their failures

Whether a push or a pop fails depends on the depth alone. This file separates the question from the
result: `pushed`, `popped` and `top` are total, and `push_eq` and `pop_eq` say that the operations
of the stack are these behind one test of the depth. What is on the stack is always told through
`items`.

Cells that are not in use hold zero, as `Clean` states. Both operations keep it so, and it is what
makes a stack that has been used equal to one that has not.
-/

namespace ChipEight.CallStack

variable {bits capacity : Nat}

/-! ## Total operations -/

/-- The stack with a value on top, or as it is when it is full. -/
def pushed (s : CallStack bits capacity) (v : BitVec bits) : CallStack bits capacity :=
  match s.push v with
  | .ok t => t
  | .error _ => s

/-- The stack without its last value, or as it is when it is empty. -/
def popped (s : CallStack bits capacity) : CallStack bits capacity :=
  match s.pop with
  | .ok (t, _) => t
  | .error _ => s

/-- The last value on the stack, or zero when it is empty. -/
def top (s : CallStack bits capacity) : BitVec bits :=
  match s.pop with
  | .ok (_, v) => v
  | .error _ => 0

theorem push_eq (s : CallStack bits capacity) (v : BitVec bits) :
    s.push v = if s.depth = capacity then .error { cause := .stackOverflow capacity }
      else .ok (s.pushed v) := by
  have hle := s.depth_le
  by_cases h : s.depth = capacity
  · rw [if_pos h]
    exact s.push_of_le v (by omega)
  · obtain ⟨t, ht, -⟩ := s.push_of_lt v (by omega)
    rw [if_neg h, pushed, ht]

theorem pop_eq (s : CallStack bits capacity) :
    s.pop = if s.depth = 0 then .error { cause := .stackUnderflow } else .ok (s.popped, s.top) := by
  by_cases h : s.depth = 0
  · rw [if_pos h]
    exact dif_pos h
  · obtain ⟨t, v, ht, -⟩ := s.pop_of_ne_zero h
    rw [if_neg h, popped, top, ht]

/-! ## What is on the stack -/

theorem items_pushed {s : CallStack bits capacity} (v : BitVec bits) (h : s.depth ≠ capacity) :
    (s.pushed v).items = s.items ++ [v] := by
  obtain ⟨t, ht, hitems⟩ := s.push_of_lt v (by have := s.depth_le; omega)
  rw [pushed, ht, ← hitems]

theorem items_popped {s : CallStack bits capacity} (h : s.depth ≠ 0) :
    s.items = s.popped.items ++ [s.top] := by
  obtain ⟨t, v, ht, hitems⟩ := s.pop_of_ne_zero h
  rw [popped, top, ht, hitems]

theorem items_of_depth_eq_zero {s : CallStack bits capacity} (h : s.depth = 0) : s.items = [] := by
  rw [items, h, List.take_zero]

theorem top_eq (s : CallStack bits capacity) : s.top = s.items.getLast?.getD 0 := by
  by_cases h : s.depth = 0
  · rw [items_of_depth_eq_zero h, top, pop, dif_pos h]
    rfl
  · rw [items_popped h, List.getLast?_append]
    rfl

/-! ## Unused cells -/

/-- All cells that are not in use hold zero. -/
def Clean (s : CallStack bits capacity) : Prop :=
  ∀ (i : Nat) (h : i < capacity), s.depth ≤ i → s.cells[i] = 0

theorem clean_empty : (empty : CallStack bits capacity).Clean := by
  intro i h _
  exact Vector.getElem_replicate h

theorem Clean.pushed {s : CallStack bits capacity} (hs : s.Clean) (v : BitVec bits) :
    (s.pushed v).Clean := by
  by_cases hd : s.depth < capacity
  · have ht : s.pushed v =
        { cells := s.cells.set s.depth v, depth := s.depth + 1, depth_le := hd } := by
      rw [CallStack.pushed, push, dif_pos hd]
    intro i h hi
    simp only [ht] at hi ⊢
    rw [Vector.getElem_set_ne _ _ (by omega)]
    exact hs i h (by omega)
  · have ht : s.pushed v = s := by rw [CallStack.pushed, push, dif_neg hd]
    rwa [ht]

theorem Clean.popped {s : CallStack bits capacity} (hs : s.Clean) : s.popped.Clean := by
  by_cases hd : s.depth = 0
  · have ht : s.popped = s := by rw [CallStack.popped, pop, dif_pos hd]
    rwa [ht]
  · have hlt : s.depth - 1 < capacity := by have := s.depth_le; omega
    have ht : s.popped =
        { cells := s.cells.set (s.depth - 1) 0, depth := s.depth - 1
          depth_le := Nat.le_of_lt hlt } := by
      rw [CallStack.popped, pop, dif_neg hd]
    intro i h hi
    simp only [ht] at hi ⊢
    -- the cell that has just been given up is the one new case
    by_cases he : s.depth - 1 = i
    · subst he
      exact Vector.getElem_set_self _
    · rw [Vector.getElem_set_ne _ _ he]
      exact hs i h (by omega)

end ChipEight.CallStack
