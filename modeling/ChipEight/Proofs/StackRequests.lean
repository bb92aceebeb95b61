import ChipEight.Proofs.Effect
import Mathlib

/-!
# The call stack as a bounded list

A stack of cells is worked by requests: push a number, push it as an address, pop, peek. This file
compares it with a list of numbers that has room for so many of them. The list knows neither cells
nor a depth; it appends, drops its last number, and reads it.

Both are served by functions of one shape, and `Served.after` and `Served.answers` carry a whole
session through either of them. A request that fails leaves what it was made to as it was, so the
rest of the session is not affected by it.

## What makes it exact

`CallStack.serve_cases` lists what a single request can do to a stack, and `CallStack.serve_eq`
reads off it that the numbers on the stack change as the list does. The list sees only the cells in
use. The others come in through `Clean`: a stack whose unused cells hold zero is determined by what
is on it, `CallStack.Clean.ext`, so that what is restored on the list is restored cell for cell.
-/

namespace ChipEight

inductive StackRequest where
  /-- Put a number on it. -/
  | push (v : Int)
  /-- Put the low twelve bits of a number on it. -/
  | pushAddress (v : Int)
  /-- Take the last number off it. -/
  | pop
  /-- Read the last number. -/
  | peek
deriving DecidableEq, Repr

namespace StackRequest

/-- The number that a request brings, if it brings one, is a signed 32-bit number. -/
def Fits : StackRequest → Prop
  | .push v | .pushAddress v => -2 ^ 31 ≤ v ∧ v < 2 ^ 31
  | .pop | .peek => True

instance : DecidablePred Fits
  | .push v | .pushAddress v => inferInstanceAs (Decidable (-2 ^ 31 ≤ v ∧ v < 2 ^ 31))
  | .pop | .peek => .isTrue trivial

/-- The number that a request puts into a cell of the given bits. -/
def pushed? (bits : Nat) : StackRequest → Option Nat
  | .push v => some (v % 2 ^ bits).toNat
  | .pushAddress v => some (v % 0x1000 % 2 ^ bits).toNat
  | .pop | .peek => none

/-- What is wrong with a request to a stack of the given capacity and depth. -/
def refusal? (capacity depth : Nat) : StackRequest → Option Cause
  | .push _ | .pushAddress _ => if depth = capacity then some (.stackOverflow capacity) else none
  | .pop => if depth = 0 then some .stackUnderflow else none
  | .peek => if depth = 0 then some .stackEmpty else none

variable {bits capacity depth : Nat} {r : StackRequest}

theorem kind_of_refusal? {c : Cause} (h : r.refusal? capacity depth = some c) :
    c.kind ∈ [FaultKind.stackOverflow, .stackUnderflow] := by
  cases r <;>
    simp only [refusal?, Option.ite_none_right_eq_some, Option.some.injEq] at h <;>
    simp [← h.2, Cause.kind]

theorem refused_overflow_iff :
    (∃ c, r.refusal? capacity depth = some c ∧ c.kind = .stackOverflow) ↔
      r.pushed? bits ≠ none ∧ depth = capacity := by
  cases r <;> simp [refusal?, pushed?, Cause.kind]

theorem refused_underflow_iff :
    (∃ c, r.refusal? capacity depth = some c ∧ c.kind = .stackUnderflow) ↔
      r.pushed? bits = none ∧ depth = 0 := by
  cases r <;> simp [refusal?, pushed?, Cause.kind]

end StackRequest

/-! ## Sessions -/

namespace Served

variable {σ α ε : Type} (serve : σ → StackRequest → Except ε (σ × α))

def next (s : σ) (r : StackRequest) : σ :=
  match serve s r with
  | .ok (t, _) => t
  | .error _ => s

def after (s : σ) (requests : List StackRequest) : σ := requests.foldl (next serve) s

/-- The answers to some requests, each made to what the one before has left. -/
def answers (s : σ) : List StackRequest → List (Except ε α)
  | [] => []
  | r :: requests => (serve s r).map Prod.snd :: answers (next serve s r) requests

theorem after_append (s : σ) (first second : List StackRequest) :
    after serve s (first ++ second) = after serve (after serve s first) second :=
  List.foldl_append

theorem next_of_eq {s t : σ} {r : StackRequest} {a : α} (h : serve s r = .ok (t, a)) :
    next serve s r = t := by
  rw [next, h]

variable {τ : Type} {serve} {serve' : τ → StackRequest → Except ε (τ × α)} {view : σ → τ}

theorem view_next {s : σ} {r : StackRequest}
    (h : (serve s r).map (Prod.map view id) = serve' (view s) r) :
    view (next serve s r) = next serve' (view s) r := by
  rw [next, next, ← h]
  cases serve s r with
  | error e => rfl
  | ok p => rfl

/-- **Sessions through a view.** When single requests are the same through a view, sessions are. -/
theorem view_session {requests : List StackRequest} {P : StackRequest → Prop}
    (hstep : ∀ (s : σ) (r : StackRequest), P r →
      (serve s r).map (Prod.map view id) = serve' (view s) r)
    (hall : ∀ r ∈ requests, P r) (s : σ) :
    view (after serve s requests) = after serve' (view s) requests ∧
      answers serve s requests = answers serve' (view s) requests := by
  induction requests generalizing s with
  | nil => exact ⟨rfl, rfl⟩
  | cons r requests ih =>
    have hr := hstep s r (hall r List.mem_cons_self)
    have hnext : view (next serve s r) = next serve' (view s) r := view_next hr
    have hanswer : (serve s r).map Prod.snd = (serve' (view s) r).map Prod.snd := by
      rw [← hr]
      cases serve s r with
      | error e => rfl
      | ok p => rfl
    obtain ⟨hafter, hanswers⟩ :=
      ih (fun q hq ↦ hall q (List.mem_cons_of_mem _ hq)) (next serve s r)
    rw [hnext] at hafter hanswers
    refine ⟨hafter, ?_⟩
    rw [answers, answers, hanswer, hanswers]

end Served

/-! ## The list -/

namespace BoundedList

/-- A list with a number more, if there is room for it. -/
def append (capacity : Nat) (xs : List Nat) (v : Nat) : Except Failure (List Nat × Option Nat) :=
  if xs.length = capacity then .error (.fault { cause := .stackOverflow capacity })
  else .ok (xs ++ [v], none)

/-- What a list with room for so many numbers of the given bits answers to a request, and the list
after it. -/
def serve (bits capacity : Nat) (xs : List Nat) :
    StackRequest → Except Failure (List Nat × Option Nat)
  | .push v => append capacity xs (v % 2 ^ bits).toNat
  | .pushAddress v => append capacity xs (v % 0x1000 % 2 ^ bits).toNat
  | .pop =>
    match xs.getLast? with
    | some v => .ok (xs.dropLast, some v)
    | none => .error (.fault { cause := .stackUnderflow })
  | .peek =>
    match xs.getLast? with
    | some v => .ok (xs, some v)
    | none => .error (.fault { cause := .stackEmpty })

variable {bits capacity : Nat}

theorem serve_of_pushed? {r : StackRequest} {v : Nat} (h : r.pushed? bits = some v)
    (xs : List Nat) : serve bits capacity xs r = append capacity xs v := by
  cases r with
  | push w | pushAddress w =>
    obtain rfl := Option.some.inj h
    rfl
  | pop | peek => cases h

theorem next_push {r : StackRequest} {v : Nat} (h : r.pushed? bits = some v) {xs : List Nat}
    (hroom : xs.length ≠ capacity) : Served.next (serve bits capacity) xs r = xs ++ [v] := by
  apply Served.next_of_eq (a := none)
  rw [serve_of_pushed? h, append, if_neg hroom]

theorem serve_of_refusal? {r : StackRequest} {xs : List Nat} {c : Cause}
    (h : r.refusal? capacity xs.length = some c) :
    serve bits capacity xs r = .error (.fault { cause := c }) := by
  cases r with
  | push w | pushAddress w =>
    obtain ⟨hfull, hc⟩ := Option.ite_none_right_eq_some.mp h
    obtain rfl := Option.some.inj hc
    exact if_pos hfull
  | pop | peek =>
    obtain ⟨hempty, hc⟩ := Option.ite_none_right_eq_some.mp h
    obtain rfl := Option.some.inj hc
    obtain rfl := List.eq_nil_of_length_eq_zero hempty
    rfl

theorem serve_pop_concat (xs : List Nat) (v : Nat) :
    serve bits capacity (xs ++ [v]) .pop = .ok (xs, some v) := by
  rw [serve, List.getLast?_concat, List.dropLast_concat]

theorem serve_peek_concat (xs : List Nat) (v : Nat) :
    serve bits capacity (xs ++ [v]) .peek = .ok (xs ++ [v], some v) := by
  rw [serve, List.getLast?_concat]

theorem after_pushes {pushes : List StackRequest} {vs : List Nat}
    (hpushes : pushes.map (StackRequest.pushed? bits) = vs.map some) {xs : List Nat}
    (hroom : xs.length + vs.length ≤ capacity) :
    Served.after (serve bits capacity) xs pushes = xs ++ vs := by
  induction pushes generalizing xs vs with
  | nil =>
    obtain rfl : vs = [] := by simpa using hpushes.symm
    exact (List.append_nil xs).symm
  | cons r pushes ih =>
    obtain ⟨v, ws, rfl⟩ : ∃ v ws, vs = v :: ws := by
      cases vs with
      | nil => cases hpushes
      | cons v ws => exact ⟨v, ws, rfl⟩
    rw [List.map_cons, List.map_cons, List.cons.injEq] at hpushes
    rw [List.length_cons] at hroom
    have hnext : Served.next (serve bits capacity) xs r = xs ++ [v] :=
      next_push hpushes.1 (by omega)
    have hrest : Served.after (serve bits capacity) (xs ++ [v]) pushes = xs ++ [v] ++ ws :=
      ih hpushes.2 (by simp; omega)
    rw [Served.after, List.foldl_cons, hnext, ← Served.after, hrest, List.append_assoc]
    rfl

theorem pops (xs vs : List Nat) :
    Served.after (serve bits capacity) (xs ++ vs) (List.replicate vs.length .pop) = xs ∧
      Served.answers (serve bits capacity) (xs ++ vs) (List.replicate vs.length .pop) =
        vs.reverse.map fun v ↦ .ok (some v) := by
  induction vs using List.reverseRecOn with
  | nil => exact ⟨List.append_nil xs, rfl⟩
  | append_singleton vs v ih =>
    have hpop : serve bits capacity (xs ++ (vs ++ [v])) .pop = .ok (xs ++ vs, some v) := by
      rw [← List.append_assoc, serve_pop_concat]
    have hnext := Served.next_of_eq _ hpop
    rw [List.length_append, List.length_singleton, List.replicate_succ, List.reverse_concat,
      Served.after, List.foldl_cons, Served.answers, hnext, hpop, ← Served.after]
    exact ⟨ih.1, congrArg _ ih.2⟩

end BoundedList

/-! ## The stack -/

theorem fitsSigned_32 {v : Int} (h : -2 ^ 31 ≤ v ∧ v < 2 ^ 31) : fitsSigned 32 v = true := by
  rw [fitsSigned, BitVec.toInt_ofInt, beq_iff_eq]
  exact Int.bmod_eq_of_le (by omega) (by omega)

theorem wrappedCell_of_fits {bits : Nat} {v : Int} (h : -2 ^ 31 ≤ v ∧ v < 2 ^ 31) :
    wrappedCell bits v = .ok (BitVec.ofInt bits v) := by
  rw [wrappedCell, if_pos (fitsSigned_32 h)]

namespace CallStack

variable {bits capacity : Nat}

def numbers (s : CallStack bits capacity) : List Nat := s.items.map BitVec.toNat

/-- What a stack answers to a request, and the stack after it. -/
def serve (s : CallStack bits capacity) :
    StackRequest → Except Failure (CallStack bits capacity × Option Nat)
  | .push v => (s.pushNumber v).map fun t ↦ (t, none)
  | .pushAddress v => (s.pushAddressNumber v).map fun t ↦ (t, none)
  | .pop => (s.pop.mapError .fault).map fun p ↦ (p.1, some p.2.toNat)
  | .peek => (s.peek.mapError .fault).map fun v ↦ (s, some v.toNat)

theorem length_numbers (s : CallStack bits capacity) : s.numbers.length = s.depth := by
  rw [numbers, List.length_map, length_items]

theorem numbers_pushed {s : CallStack bits capacity} (v : BitVec bits) (h : s.depth ≠ capacity) :
    (s.pushed v).numbers = s.numbers ++ [v.toNat] := by
  rw [numbers, items_pushed v h, List.map_append]
  rfl

theorem numbers_popped {s : CallStack bits capacity} (h : s.depth ≠ 0) :
    s.numbers = s.popped.numbers ++ [s.top.toNat] := by
  rw [numbers, items_popped h, List.map_append]
  rfl

theorem peek_eq (s : CallStack bits capacity) :
    s.peek = if s.depth = 0 then .error { cause := .stackEmpty } else .ok s.top := by
  by_cases h : s.depth = 0
  · rw [if_pos h, peek, dif_pos h]
  · rw [if_neg h, peek, dif_neg h, top, pop, dif_neg h]

theorem toNat_address_ofInt (v : Int) :
    ((Word.address (BitVec.ofInt 16 v)).setWidth bits).toNat = (v % 0x1000 % 2 ^ bits).toNat := by
  have hcut : (v % 0x10000).toNat % 0x1000 = (v % 0x1000).toNat := by omega
  obtain ⟨n, hn⟩ := Int.eq_ofNat_of_zero_le (Int.emod_nonneg v (b := 0x1000) (by decide))
  have hcell : (n : Int) % 2 ^ bits = (n % 2 ^ bits : Nat) := by push_cast; rfl
  rw [BitVec.toNat_setWidth, Word.toNat_address, BitVec.toNat_ofInt]
  show (v % 0x10000).toNat % 0x1000 % 2 ^ bits = _
  rw [hcut, hn, hcell, Int.toNat_natCast, Int.toNat_natCast]

theorem serve_of_pushed? {r : StackRequest} {v : Nat} (hfits : r.Fits)
    (h : r.pushed? bits = some v) (s : CallStack bits capacity) :
    ∃ cell : BitVec bits, cell.toNat = v ∧
      s.serve r = if s.depth = capacity then .error (.fault { cause := .stackOverflow capacity })
        else .ok (s.pushed cell, none) := by
  have hle := s.depth_le
  cases r with
  | push w =>
    obtain rfl := Option.some.inj h
    refine ⟨BitVec.ofInt bits w, BitVec.toNat_ofInt .., ?_⟩
    rw [serve, pushNumber, wrappedCell_of_fits hfits]
    -- whether there is room is asked first, but a number that fits makes no difference to that
    by_cases hd : s.depth = capacity
    · rw [if_pos hd, if_neg (by omega)]
      rfl
    · rw [if_neg hd, if_pos (by omega)]
      show ((s.push _).mapError _).map _ = _
      rw [push_eq, if_neg hd]
      rfl
  | pushAddress w =>
    obtain rfl := Option.some.inj h
    refine ⟨_, toNat_address_ofInt w, ?_⟩
    rw [serve, pushAddressNumber, wrappedCell_of_fits hfits]
    show ((s.pushAddress _).mapError _).map _ = _
    rw [pushAddress, push_eq]
    by_cases hd : s.depth = capacity
    · rw [if_pos hd, if_pos hd]
      rfl
    · rw [if_neg hd, if_neg hd]
      rfl
  | pop | peek => cases h

/-- **One request in cases.** It is refused, or it pushes a cell, or it gives the topmost number,
with or without dropping it. -/
theorem serve_cases (s : CallStack bits capacity) {r : StackRequest} (hfits : r.Fits) :
    (∃ c, r.refusal? capacity s.depth = some c ∧ s.serve r = .error (.fault { cause := c })) ∨
    r.refusal? capacity s.depth = none ∧
      ((∃ cell : BitVec bits, r.pushed? bits = some cell.toNat ∧ s.depth ≠ capacity ∧
          s.serve r = .ok (s.pushed cell, none)) ∨
        s.depth ≠ 0 ∧
          (r = .pop ∧ s.serve r = .ok (s.popped, some s.top.toNat) ∨
            r = .peek ∧ s.serve r = .ok (s, some s.top.toNat))) := by
  cases r with
  | push w | pushAddress w =>
    obtain ⟨cell, hcell, hserve⟩ := serve_of_pushed? hfits rfl s
    by_cases hd : s.depth = capacity
    · rw [if_pos hd] at hserve
      exact .inl ⟨_, if_pos hd, hserve⟩
    · rw [if_neg hd] at hserve
      exact .inr ⟨if_neg hd, .inl ⟨cell, congrArg some hcell.symm, hd, hserve⟩⟩
  | pop =>
    by_cases hd : s.depth = 0
    · refine .inl ⟨_, if_pos hd, ?_⟩
      rw [serve, pop_eq, if_pos hd]
      rfl
    · refine .inr ⟨if_neg hd, .inr ⟨hd, .inl ⟨rfl, ?_⟩⟩⟩
      rw [serve, pop_eq, if_neg hd]
      rfl
  | peek =>
    by_cases hd : s.depth = 0
    · refine .inl ⟨_, if_pos hd, ?_⟩
      rw [serve, peek_eq, if_pos hd]
      rfl
    · refine .inr ⟨if_neg hd, .inr ⟨hd, .inr ⟨rfl, ?_⟩⟩⟩
      rw [serve, peek_eq, if_neg hd]
      rfl

theorem serve_eq (s : CallStack bits capacity) {r : StackRequest} (hfits : r.Fits) :
    (s.serve r).map (Prod.map numbers id) = BoundedList.serve bits capacity s.numbers r := by
  obtain ⟨c, hc, hserve⟩ |
      ⟨-, ⟨cell, hcell, hroom, hserve⟩ | ⟨hd, ⟨rfl, hserve⟩ | ⟨rfl, hserve⟩⟩⟩ :=
    s.serve_cases hfits
  · rw [← length_numbers] at hc
    rw [hserve, BoundedList.serve_of_refusal? hc]
    rfl
  · rw [hserve, BoundedList.serve_of_pushed? hcell, BoundedList.append, length_numbers,
      if_neg hroom, ← numbers_pushed cell hroom]
    rfl
  · rw [hserve, numbers_popped hd, BoundedList.serve_pop_concat]
    rfl
  · rw [hserve, numbers_popped hd, BoundedList.serve_peek_concat, ← numbers_popped hd]
    rfl

theorem next_eq (s : CallStack bits capacity) {r : StackRequest} (hfits : r.Fits) :
    Served.next serve s r = s ∨ (∃ cell, Served.next serve s r = s.pushed cell) ∨
      Served.next serve s r = s.popped := by
  obtain ⟨c, -, hserve⟩ | ⟨-, ⟨cell, -, -, hserve⟩ | ⟨-, ⟨-, hserve⟩ | ⟨-, hserve⟩⟩⟩ :=
    s.serve_cases hfits
  · left
    rw [Served.next, hserve]
  · exact .inr (.inl ⟨cell, Served.next_of_eq _ hserve⟩)
  · exact .inr (.inr (Served.next_of_eq _ hserve))
  · exact .inl (Served.next_of_eq _ hserve)

/-! ## Unused cells -/

theorem Clean.ext {s t : CallStack bits capacity} (hs : s.Clean) (ht : t.Clean)
    (h : s.numbers = t.numbers) : s = t := by
  have hdepth : s.depth = t.depth := by
    rw [← length_numbers, ← length_numbers, h]
  have hitems : s.items = t.items :=
    (List.map_inj_right fun _ _ ↦ BitVec.eq_of_toNat_eq).mp h
  have hcells : s.cells = t.cells := by
    apply Vector.ext
    intro i hi
    by_cases hused : i < s.depth
    · have hcell : s.items[i]? = t.items[i]? := by rw [hitems]
      simpa [items, hused, hdepth ▸ hused, hi] using hcell
    · rw [hs i hi (by omega), ht i hi (by omega)]
  obtain ⟨cells, depth, hle⟩ := s
  obtain ⟨cells', depth', hle'⟩ := t
  obtain rfl : cells = cells' := hcells
  obtain rfl : depth = depth' := hdepth
  rfl

theorem Clean.after {requests : List StackRequest} (hfits : ∀ r ∈ requests, r.Fits)
    {s : CallStack bits capacity} (hs : s.Clean) : (Served.after serve s requests).Clean := by
  induction requests generalizing s with
  | nil => exact hs
  | cons r requests ih =>
    have hnext : (Served.next serve s r).Clean := by
      obtain hnext | ⟨cell, hnext⟩ | hnext := s.next_eq (hfits r List.mem_cons_self)
      · rwa [hnext]
      · rw [hnext]
        exact hs.pushed cell
      · rw [hnext]
        exact hs.popped
    exact ih (fun q hq ↦ hfits q (List.mem_cons_of_mem _ hq)) hnext

/-! ## Whole sessions -/

theorem session_eq {requests : List StackRequest} (hfits : ∀ r ∈ requests, r.Fits)
    (s : CallStack bits capacity) :
    (Served.after serve s requests).numbers =
        Served.after (BoundedList.serve bits capacity) s.numbers requests ∧
      Served.answers serve s requests =
        Served.answers (BoundedList.serve bits capacity) s.numbers requests :=
  Served.view_session (fun t _ hr ↦ t.serve_eq hr) hfits s

/-- Pushing some numbers and popping as many leaves a clean stack as it was, cell for cell, and
gives the numbers back in the opposite order. -/
theorem Clean.pops_after_pushes {s : CallStack bits capacity} (hs : s.Clean)
    {pushes : List StackRequest} {vs : List Nat} (hfits : ∀ r ∈ pushes, r.Fits)
    (hpushes : pushes.map (StackRequest.pushed? bits) = vs.map some)
    (hroom : s.depth + vs.length ≤ capacity) :
    Served.after serve s (pushes ++ List.replicate vs.length .pop) = s ∧
      Served.answers serve (Served.after serve s pushes) (List.replicate vs.length .pop) =
        vs.reverse.map fun v ↦ .ok (some v) := by
  have hpop : ∀ r ∈ List.replicate vs.length StackRequest.pop, r.Fits := fun r hr ↦ by
    rw [List.eq_of_mem_replicate hr]
    trivial
  have hpushed : (Served.after serve s pushes).numbers = s.numbers ++ vs := by
    rw [(session_eq hfits s).1, BoundedList.after_pushes hpushes (by rwa [length_numbers])]
  obtain ⟨hafter, hanswers⟩ := session_eq hpop (Served.after serve s pushes)
  rw [hpushed] at hafter hanswers
  rw [(BoundedList.pops s.numbers vs).1] at hafter
  rw [(BoundedList.pops s.numbers vs).2] at hanswers
  refine ⟨?_, hanswers⟩
  rw [Served.after_append]
  exact ((hs.after hfits).after hpop).ext hs hafter

/-! ## Requests that fail -/

theorem serve_eq_error_iff (s : CallStack bits capacity) {r : StackRequest} (hfits : r.Fits)
    {e : Failure} :
    s.serve r = .error e ↔
      ∃ c, r.refusal? capacity s.depth = some c ∧ e = .fault { cause := c } := by
  obtain ⟨c, hc, hserve⟩ | ⟨hnone, hserve⟩ := s.serve_cases hfits
  · rw [hserve, hc]
    constructor
    · intro h
      exact ⟨c, rfl, (Except.error.inj h).symm⟩
    · rintro ⟨c', hc', rfl⟩
      rw [Option.some.inj hc']
  · rw [hnone]
    constructor
    · intro h
      obtain ⟨cell, -, -, hok⟩ | ⟨-, ⟨-, hok⟩ | ⟨-, hok⟩⟩ := hserve <;>
        rw [hok] at h <;> cases h
    · rintro ⟨c, hc, -⟩
      cases hc

theorem fails_iff (s : CallStack bits capacity) {r : StackRequest} (hfits : r.Fits)
    {k : FaultKind} :
    (∃ f, s.serve r = .error (.fault f) ∧ f.kind = k) ↔
      ∃ c, r.refusal? capacity s.depth = some c ∧ c.kind = k := by
  constructor
  · rintro ⟨f, hf, hkind⟩
    obtain ⟨c, hc, hfault⟩ := (s.serve_eq_error_iff hfits).mp hf
    obtain rfl := Failure.fault.inj hfault
    exact ⟨c, hc, hkind⟩
  · rintro ⟨c, hc, hkind⟩
    exact ⟨{ cause := c }, (s.serve_eq_error_iff hfits).mpr ⟨c, hc, rfl⟩, hkind⟩

/-! ## The stack and the list -/

/-- A stack that holds these numbers, lowest first, and zeros above them. -/
structure Holds (s : CallStack bits capacity) (xs : List Nat) : Prop where
  /-- They are what is on it. -/
  items_eq : s.items.map BitVec.toNat = xs
  /-- There are as many as its depth. -/
  depth_eq : s.depth = xs.length
  /-- There is room for them. -/
  length_le : xs.length ≤ capacity
  /-- There are as many cells as there is room, and the others are zero. -/
  cells_eq : s.cells.toList.map BitVec.toNat = xs ++ List.replicate (capacity - xs.length) 0

theorem Clean.holds {s : CallStack bits capacity} (hs : s.Clean) : s.Holds s.numbers where
  items_eq := rfl
  depth_eq := s.length_numbers.symm
  length_le := s.length_numbers.symm ▸ s.depth_le
  cells_eq := by
    have hzeros : s.cells.toList.drop s.depth = List.replicate (capacity - s.depth) 0 := by
      rw [List.eq_replicate_iff]
      refine ⟨by simp, fun b hb ↦ ?_⟩
      obtain ⟨i, hi, rfl⟩ := List.mem_iff_getElem.mp hb
      rw [List.getElem_drop, Vector.getElem_toList]
      exact hs _ _ (Nat.le_add_right ..)
    rw [length_numbers, numbers, items]
    conv => lhs; rw [← List.take_append_drop s.depth s.cells.toList, hzeros]
    rw [List.map_append, List.map_replicate]
    rfl

/-- **The call stack is a bounded list.** Worked by any requests with numbers of 32 bits, a stack
answers as a list with the same room does, and holds what the list holds, with zeros above it. In
each state that it comes to, a push fails for a full stack and no other reason, a pop or a peek for
an empty one, and what fails changes nothing; and numbers that are pushed are popped in the opposite
order, after which every cell is what it was. -/
theorem refines_bounded_list (bits capacity : Nat) (requests : List StackRequest)
    (hfits : ∀ r ∈ requests, r.Fits) :
    let s : CallStack bits capacity := Served.after serve empty requests
    s.Holds (Served.after (BoundedList.serve bits capacity) [] requests) ∧
    Served.answers serve (empty : CallStack bits capacity) requests =
      Served.answers (BoundedList.serve bits capacity) [] requests ∧
    (∀ r : StackRequest, r.Fits →
      ((∃ f, s.serve r = .error (.fault f) ∧ f.kind = .stackOverflow) ↔
        r.pushed? bits ≠ none ∧ s.items.length = capacity) ∧
      ((∃ f, s.serve r = .error (.fault f) ∧ f.kind = .stackUnderflow) ↔
        r.pushed? bits = none ∧ s.items = []) ∧
      ∀ e, s.serve r = .error e → Served.next serve s r = s ∧
        ∃ f, e = .fault f ∧ f.kind ∈ [FaultKind.stackOverflow, .stackUnderflow]) ∧
    ∀ (pushes : List StackRequest) (vs : List Nat), (∀ r ∈ pushes, r.Fits) →
      pushes.map (StackRequest.pushed? bits) = vs.map some →
      s.items.length + vs.length ≤ capacity →
      Served.after serve s (pushes ++ List.replicate vs.length .pop) = s ∧
      Served.answers serve (Served.after serve s pushes) (List.replicate vs.length .pop) =
        vs.reverse.map fun v ↦ .ok (some v) := by
  intro s
  have hclean : s.Clean := clean_empty.after hfits
  obtain ⟨hnumbers, hanswers⟩ := session_eq hfits (empty : CallStack bits capacity)
  have hempty : (empty : CallStack bits capacity).numbers = [] := by
    rw [numbers, items_empty]
    rfl
  rw [hempty] at hnumbers hanswers
  refine ⟨hnumbers ▸ hclean.holds, hanswers, fun r hr ↦ ⟨?_, ?_, fun e he ↦ ?_⟩,
    fun pushes vs hpushes hvs hroom ↦ ?_⟩
  · rw [s.fails_iff hr, StackRequest.refused_overflow_iff, length_items]
  · rw [s.fails_iff hr, StackRequest.refused_underflow_iff, ← List.length_eq_zero_iff, length_items]
  · obtain ⟨c, hc, rfl⟩ := (s.serve_eq_error_iff hr).mp he
    refine ⟨by rw [Served.next, he], { cause := c }, rfl, StackRequest.kind_of_refusal? hc⟩
  · exact hclean.pops_after_pushes hpushes hvs (by rwa [← length_items])

/-- Two bytes of room: a number below zero wraps, an address loses all but its last eight bits, a
third number is refused, and the first one is still there after the second has been popped. -/
theorem refines_bounded_list_of_two_bytes :
    let requests : List StackRequest := [.push (-1), .pushAddress 0x1234, .push 7, .pop, .peek]
    (∀ r ∈ requests, r.Fits) ∧
      (Served.after serve (empty : CallStack 8 2) requests).Holds [255] ∧
      Served.answers serve (empty : CallStack 8 2) requests =
        [.ok none, .ok none, .error (.fault { cause := .stackOverflow 2 }), .ok (some 0x34),
          .ok (some 255)] := by
  intro requests
  have hfits : ∀ r ∈ requests, r.Fits := by decide
  obtain ⟨hholds, hanswers, -⟩ := refines_bounded_list 8 2 requests hfits
  exact ⟨hfits, hholds, hanswers⟩

end CallStack

end ChipEight
