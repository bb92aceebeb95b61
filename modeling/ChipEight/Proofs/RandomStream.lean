import ChipEight.Proofs.SideBySide
import Mathlib.Logic.Function.Iterate

/-!
# The stream of random bytes

A seed determines a stream of bytes, `Key.stream`, before any machine has been made of it. The keys
are split one after the other, and each byte is drawn from what is left over at one of the splits.

## What a machine sees of it

A machine uses up one byte of the stream at every tick that draws one, and none at any other. So the
position in the stream is the number of such ticks since the last reset, and the key of a state
tells no more than that. `State.DrawnFrom` says this of a state and of the ticks that led to it.

## What a machine shows of it

The other way round, the key of a state is looked at by one operation only. Two machines that differ
in their seeds go together until one of them draws a byte. It is the same tick in both, because what
they have done before cannot depend on the seed.
-/

namespace ChipEight

variable {g : Geometry} {capacity : Nat}

/-! ## The stream of a seed -/

namespace Key

/-- The byte that is drawn from a key that is spent. -/
def draw (k : Key) : Byte :=
  let drawn := k.spent.threefry ⟨0, 0⟩
  BitVec.ofNat 8 (drawn.hi ^^^ drawn.lo).toNat

theorem byte_eq_draw (k : Key) : k.byte = k.spent.draw := rfl

/-- The key after some splits of the first key of a seed. -/
def afterSplits (seed : Int) (k : Nat) : Key := next^[k] (ofSeed seed)

theorem afterSplits_succ (seed : Int) (k : Nat) :
    afterSplits seed (k + 1) = (afterSplits seed k).next :=
  Function.iterate_succ_apply' ..

/-- The random bytes of a seed, counted from zero. -/
def stream (seed : Int) (j : Nat) : Byte := (afterSplits seed j).spent.draw

end Key

/-! ## The ticks that draw -/

namespace Tick

def draws (past : List (Tick g capacity)) : List (Tick g capacity) :=
  past.filter fun r ↦ r.Executes .random

theorem draws_append_of_executes (past : List (Tick g capacity)) {r : Tick g capacity}
    (h : r.Executes .random) : draws (past ++ [r]) = draws past ++ [r] := by
  simp [draws, h]

theorem draws_append_of_not_executes (past : List (Tick g capacity)) {r : Tick g capacity}
    (h : ¬r.Executes .random) : draws (past ++ [r]) = draws past := by
  simp [draws, h]

/-- That a tick has written a random byte to its register, under the mask that it names. -/
def Draws (r : Tick g capacity) (b : Byte) : Prop :=
  ∃ i, r.result = .ok i ∧ r.after.register i.x = b &&& BitVec.ofInt 8 i.nn

end Tick

namespace State

/-- That the random bytes which some ticks have drawn are the first bytes of the stream of a seed,
and that nothing else has been taken from it. -/
structure DrawnFrom (seed : Int) (s : State g capacity) (past : List (Tick g capacity)) :
    Prop where
  /-- The key has been split once for every byte that was drawn. -/
  rng_eq : s.rng = Key.afterSplits seed (Tick.draws past).length
  /-- The bytes were drawn in the order of the stream. -/
  draws_stream : ∀ (j : Nat) (r : Tick g capacity),
    (Tick.draws past)[j]? = some r → r.Draws (Key.stream seed j)
  /-- All other ticks have left the key alone. -/
  rng_kept : ∀ r ∈ past, ¬r.Executes .random → r.after.rng = r.before.rng

theorem draws_okTick (s : State g capacity) :
    (s.okTick .random (s.tickTimers.next s.opcode .random)).Draws s.rng.byte := by
  refine ⟨_, rfl, ?_⟩
  show (s.tickTimers.registers.set _ _)[s.opcode.n2] = _
  rw [Fin.getElem_fin, Vector.getElem_set_self]
  exact congrArg (s.rng.byte &&& ·) (BitVec.ofInt_natCast ..).symm

namespace DrawnFrom

variable {seed : Int} {s t : State g capacity} {past : List (Tick g capacity)}
  {r : Tick g capacity}

theorem append_of_not_executes (h : s.DrawnFrom seed past) (hr : ¬r.Executes .random)
    (hbefore : r.before = s) (hafter : r.after.rng = s.rng) :
    r.after.DrawnFrom seed (past ++ [r]) where
  rng_eq := by
    rw [Tick.draws_append_of_not_executes past hr, hafter]
    exact h.rng_eq
  draws_stream := by
    rw [Tick.draws_append_of_not_executes past hr]
    exact h.draws_stream
  rng_kept x hx hop := by
    rcases List.mem_append.mp hx with hx | hx
    · exact h.rng_kept x hx hop
    · obtain rfl := List.mem_singleton.mp hx
      rw [hafter, hbefore]

theorem append_of_draws (h : s.DrawnFrom seed past) (hr : r.Executes .random)
    (hdraws : r.Draws s.rng.byte) (hafter : r.after.rng = s.rng.next) :
    r.after.DrawnFrom seed (past ++ [r]) where
  rng_eq := by
    rw [Tick.draws_append_of_executes past hr, hafter, h.rng_eq, List.length_append]
    exact (Key.afterSplits_succ ..).symm
  draws_stream j x hx := by
    rw [Tick.draws_append_of_executes past hr] at hx
    by_cases hj : j < (Tick.draws past).length
    · rw [List.getElem?_append_left hj] at hx
      exact h.draws_stream j x hx
    · -- the last byte is the one at which the stream had arrived
      obtain ⟨hlength, -⟩ := List.getElem?_eq_some_iff.mp hx
      rw [List.length_append, List.length_singleton] at hlength
      obtain rfl : j = (Tick.draws past).length := by omega
      rw [List.getElem?_concat_length] at hx
      obtain rfl := Option.some.inj hx
      rw [h.rng_eq, Key.byte_eq_draw] at hdraws
      exact hdraws
  rng_kept x hx hop := by
    rcases List.mem_append.mp hx with hx | hx
    · exact h.rng_kept x hx hop
    · obtain rfl := List.mem_singleton.mp hx
      exact absurd hr hop

end DrawnFrom

theorem drawnFrom_initial (g : Geometry) (capacity : Nat) (seed : Int) :
    (initial g capacity (Key.ofSeed seed)).DrawnFrom seed [] where
  rng_eq := rfl
  draws_stream _ _ h := by cases h
  rng_kept _ h := by cases h

theorem kept_drawnFrom (seed : Int) :
    Kept fun (s : State g capacity) past ↦ s.DrawnFrom seed past where
  okTick {s t past operation} h hs := by
    obtain rfl := hs.eq_next
    have hrng := s.tickTimers.rng_effect s.opcode operation
    by_cases hop : operation = .random
    · subst hop
      exact h.append_of_draws (executes_okTick.mpr rfl) s.draws_okTick hrng
    · refine h.append_of_not_executes (fun hx ↦ hop (executes_okTick.mp hx)) rfl (hrng.trans ?_)
      split
      · exact absurd rfl hop
      · rfl
  errorTick h _ := h.append_of_not_executes not_executes_errorTick rfl rfl
  memory h _ := ⟨h.rng_eq, h.draws_stream, h.rng_kept⟩
  keys h _ := ⟨h.rng_eq, h.draws_stream, h.rng_kept⟩

/-! ## States that differ in their keys -/

def withRng (s : State g capacity) (rng : Key) : State g capacity := { s with rng }

/-- That two states differ in the random source at most. -/
def SameButRng (s s' : State g capacity) : Prop := ∃ rng, s' = s.withRng rng

section WithRng

variable (s : State g capacity) (rng : Key) (o : Opcode)

theorem withRng_eq_besides :
    s.withRng rng = s.besides rng s.screen s.delayTimer s.soundTimer := rfl

theorem stepFailure?_withRng : (s.withRng rng).stepFailure? = s.stepFailure? :=
  s.stepFailure?_besides ..

theorem effect_withRng {operation : Operation} (h : operation ≠ .random) :
    (s.withRng rng).effect o operation = (s.effect o operation).withRng rng := by
  cases operation with
  | random => exact absurd rfl h
  | waitKey =>
    rw [effect, withRng_eq_besides, waitKey_besides, effect]
    -- waiting for a key leaves alone what the new random source stands beside
    rw [waitKey_eq]
    rfl
  | load =>
    rw [effect, effect]
    rfl
  | _ => rfl

end WithRng

/-- A cycle goes the same way, and unless it draws a byte it leaves the random source as it is. -/
theorem steps_withRng {s t : State g capacity} {operation : Operation} (rng : Key)
    (hs : s.Steps operation t) :
    ∃ t', (s.withRng rng).Steps operation t' ∧ (operation ≠ .random → t' = t.withRng rng) := by
  refine ⟨_, hs.besides rng s.screen s.delayTimer s.soundTimer, fun hop ↦ ?_⟩
  rw [hs.eq_next]
  exact next_besides _ _ _ _ (s.tickTimers.effect_withRng rng s.opcode hop)

theorem keptInStep_sameButRng :
    KeptInStep (@SameButRng g capacity) (· = .random) where
  okTick := by
    rintro s _ t operation ⟨rng, rfl⟩ hs
    obtain ⟨t', hs', ht⟩ := steps_withRng rng hs
    exact ⟨t', hs', rfl, fun hop ↦ ⟨rng, ht hop⟩⟩
  errorTick := by
    rintro s _ e ⟨rng, rfl⟩ he
    exact ⟨(s.stepFailure?_withRng rng).trans he, rfl, rng, rfl⟩
  rom := by
    rintro s _ ⟨rng, rfl⟩ rom
    exact ⟨rng, rfl⟩
  keys := by
    rintro s _ ⟨rng, rfl⟩ keys
    exact ⟨rng, rfl⟩

end State

/-! ## Sessions -/

namespace Machine

/-- **The random stream.** However a machine is worked, the bytes that it has drawn since the last
reset are the first bytes of the stream of its seed, in order, and its key has been split once for
each of them. If a machine that differs in its seed alone is told the same, nothing but the key
differs until both come to draw their first byte. -/
theorem random_stream (c : Config) (logger : Logger) (commands : List Command) :
    ((new c logger).after commands).state.DrawnFrom c.seed ((new c logger).history [] commands) ∧
    ∀ (seed : Int) (logger' : Logger),
      InStep State.SameButRng (· = .random)
        ((new c logger).history [] commands) ((new c logger).after commands).state
        ((new { c with seed } logger').history [] commands)
        ((new { c with seed } logger').after commands).state := by
  refine ⟨?_, fun seed logger' ↦ ?_⟩
  · exact after_induction (State.kept_drawnFrom c.seed) (new c logger) []
      (State.drawnFrom_initial ..) (State.drawnFrom_initial ..) commands
  · -- the two first states are the same but for the key of the seed
    have hinitial : State.SameButRng (State.initial c.geometry c.capacity (Key.ofSeed c.seed))
        (State.initial c.geometry c.capacity (Key.ofSeed seed)) := ⟨Key.ofSeed seed, rfl⟩
    exact after_inStep State.keptInStep_sameButRng (new c logger) (new { c with seed } logger')
      hinitial [] [] (.together .nil hinitial) commands

/-- Two bytes are drawn. A third draw stands at the end of memory and fails, because no instruction
can follow it, and the key it was about to split is left. -/
theorem random_stream_of_failed_draw :
    ((new (.usual 0) (.plain .info)).after
      [.loadRom [0xC2, 0xFF, 0xC3, 0x0F, 0x60, 0xC0, 0x61, 0xFF, 0xAF, 0xFD, 0xF1, 0x55,
        0x1F, 0xFD], .run 8 false]).state.rng = Key.afterSplits 0 2 := by
  have hlength : (Tick.draws ((new (.usual 0) (.plain .info)).history []
      [.loadRom [0xC2, 0xFF, 0xC3, 0x0F, 0x60, 0xC0, 0x61, 0xFF, 0xAF, 0xFD, 0xF1, 0x55,
        0x1F, 0xFD], .run 8 false])).length = 2 := by decide +kernel
  rw [← hlength]
  exact (random_stream (.usual 0) (.plain .info) _).1.rng_eq

end Machine

end ChipEight
