import ChipEight.Failure

/-!
# The call stack

A stack has a fixed number of cells, of which the lowest `depth` are in use. Pushing writes the
first free cell, popping clears the last one in use, so the cells above the depth stay zero as long
as only these two touch them.

## Order of checks

A full stack is reported before the pushed number is looked at. An address is narrowed to the
twelve bits that name a place in memory before the stack is looked at. The two orders can be told
apart by pushing a number that does not fit onto a full stack.
-/

namespace ChipEight

/-- A stack of cells with the given number of bits. -/
structure CallStack (bits capacity : Nat) where
  /-- All cells, in use or not, lowest first. -/
  cells : Vector (BitVec bits) capacity
  /-- The number of cells in use. -/
  depth : Nat
  /-- No more cells are in use than there are. -/
  depth_le : depth ≤ capacity
deriving DecidableEq, Repr

namespace CallStack

variable {bits capacity : Nat}

def empty : CallStack bits capacity where
  cells := Vector.replicate capacity 0
  depth := 0
  depth_le := Nat.zero_le _

/-- What is on the stack, lowest first. -/
def items (s : CallStack bits capacity) : List (BitVec bits) := s.cells.toList.take s.depth

def push (s : CallStack bits capacity) (v : BitVec bits) :
    Except Fault (CallStack bits capacity) :=
  if h : s.depth < capacity then
    .ok { cells := s.cells.set s.depth v, depth := s.depth + 1, depth_le := h }
  else .error { cause := .stackOverflow capacity }

def pop (s : CallStack bits capacity) :
    Except Fault (CallStack bits capacity × BitVec bits) :=
  if h : s.depth = 0 then .error { cause := .stackUnderflow }
  else
    have hlt : s.depth - 1 < capacity := by have := s.depth_le; omega
    .ok ({ cells := s.cells.set (s.depth - 1) 0, depth := s.depth - 1
           depth_le := Nat.le_of_lt hlt }, s.cells[s.depth - 1])

def peek (s : CallStack bits capacity) : Except Fault (BitVec bits) :=
  if h : s.depth = 0 then .error { cause := .stackEmpty }
  else
    have hlt : s.depth - 1 < capacity := by have := s.depth_le; omega
    .ok s.cells[s.depth - 1]

/-- Puts the low twelve bits of a word on the stack. -/
def pushAddress (s : CallStack bits capacity) (w : Word) :
    Except Fault (CallStack bits capacity) :=
  s.push (w.address.setWidth bits)

/-- Puts a number on the stack, wrapped to a cell. -/
def pushNumber (s : CallStack bits capacity) (v : Int) :
    Except Failure (CallStack bits capacity) := do
  if s.depth < capacity then
    let cell ← (wrappedCell bits v).mapError .range
    (s.push cell).mapError .fault
  else throw (.fault { cause := .stackOverflow capacity })

/-- Puts a number on the stack as an address. -/
def pushAddressNumber (s : CallStack bits capacity) (v : Int) :
    Except Failure (CallStack bits capacity) := do
  let w ← (wrappedCell 16 v).mapError .range
  (s.pushAddress w).mapError .fault

/-! ## What is on the stack -/

@[simp] theorem items_empty : (empty : CallStack bits capacity).items = [] := by
  simp [items, empty]

@[simp] theorem length_items (s : CallStack bits capacity) : s.items.length = s.depth := by
  simp [items, s.depth_le]

theorem push_of_lt (s : CallStack bits capacity) (v : BitVec bits) (h : s.depth < capacity) :
    ∃ t, s.push v = .ok t ∧ t.items = s.items ++ [v] := by
  refine ⟨_, dif_pos h, ?_⟩
  have hl : s.depth < s.cells.toList.length := by simpa using h
  simp only [items, Vector.toList_set, List.take_set]
  rw [List.take_succ_eq_append_getElem hl, List.set_append_right _ _ (List.length_take_le ..)]
  simp [Nat.min_eq_left s.depth_le]

theorem push_of_le (s : CallStack bits capacity) (v : BitVec bits) (h : capacity ≤ s.depth) :
    s.push v = .error { cause := .stackOverflow capacity } :=
  dif_neg (Nat.not_lt.2 h)

theorem pop_of_ne_zero (s : CallStack bits capacity) (h : s.depth ≠ 0) :
    ∃ t v, s.pop = .ok (t, v) ∧ s.items = t.items ++ [v] := by
  have hlt : s.depth - 1 < capacity := by have := s.depth_le; omega
  refine ⟨_, _, dif_neg h, ?_⟩
  have hl : s.depth - 1 < s.cells.toList.length := by simpa using hlt
  have hs : s.depth = s.depth - 1 + 1 := by omega
  simp only [items, Vector.toList_set, List.take_set]
  rw [List.set_eq_of_length_le (List.length_take_le ..)]
  conv => lhs; rw [hs, List.take_succ_eq_append_getElem hl]
  simp

end CallStack

end ChipEight
