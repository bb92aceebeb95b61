import ChipEight.Proofs.Runs
import Mathlib.Data.List.Forall2

/-!
# Two machines side by side

Two machines are told the same, and what can be said of both at once is a relation between their
states. This file is the counterpart for two machines of the induction along a session.

## Parting

Not every such relation holds for ever. If two machines differ in something that only some
operations look at, they go alike until one of these is executed, and from there on nothing is
known. `InStep` says both: either the ticks of two sessions correspond one to one and the states are
related, or they did until a tick that is the same in both and executes one of these operations.
`KeptInStep` collects what has to be shown of the relation, and `Machine.after_inStep` concludes
from it that the sessions are in step.
-/

namespace ChipEight

variable {g : Geometry} {capacity : Nat}

/-- That two ticks have the same result, and begin and end in related states. -/
structure SameTick (R : State g capacity → State g capacity → Prop) (r r' : Tick g capacity) :
    Prop where
  before : R r.before r'.before
  result : r'.result = r.result
  after : R r.after r'.after

/-- That two sessions have gone alike so far, or that they did until both came to a tick that
executes one of some operations. A session is given by its ticks and the state it ends in. -/
inductive InStep (R : State g capacity → State g capacity → Prop) (parting : Operation → Prop) :
    List (Tick g capacity) → State g capacity → List (Tick g capacity) → State g capacity → Prop
  /-- The ticks correspond, and the states are related. -/
  | together {past s past' s'} (hpast : List.Forall₂ (SameTick R) past past') (h : R s s') :
    InStep R parting past s past' s'
  /-- The ticks correspond up to one in each session, and these two have the same result. -/
  | parted {past x later s past' x' later' s' operation}
    (hpast : List.Forall₂ (SameTick R) past past') (hbefore : R x.before x'.before)
    (hresult : x'.result = x.result) (hx : x.Executes operation) (hop : parting operation) :
    InStep R parting (past ++ x :: later) s (past' ++ x' :: later') s'

/-- A relation between the states of two machines that nothing breaks which both are told alike,
as long as neither executes one of some operations. -/
structure KeptInStep (R : State g capacity → State g capacity → Prop)
    (parting : Operation → Prop) : Prop where
  /-- A tick that succeeds does so on both sides. -/
  okTick {s s' t operation} (h : R s s') (hs : s.Steps operation t) :
    ∃ t', s'.Steps operation t' ∧ s'.opcode = s.opcode ∧ (¬parting operation → R t t')
  /-- A tick that fails does so on both sides, for the same reason. -/
  errorTick {s s' e} (h : R s s') (he : s.stepFailure? = some e) :
    s'.stepFailure? = some e ∧ s'.locate = s.locate ∧ R s.tickTimers s'.tickTimers
  /-- A program that is loaded. -/
  rom {s s'} (h : R s s') (rom : List Byte) :
    R { s with memory := s.memory.write programStart rom }
      { s' with memory := s'.memory.write programStart rom }
  /-- A change of the keys. -/
  keys {s s'} (h : R s s') (keys : Keys) : R { s with keys } { s' with keys }

namespace InStep

variable {R : State g capacity → State g capacity → Prop} {parting : Operation → Prop}
  {past past' : List (Tick g capacity)} {s s' t t' : State g capacity}

/-- After the parting the states do not matter, and before it they have to be related again. -/
theorem map (h : InStep R parting past s past' s') (ht : R s s' → R t t') :
    InStep R parting past t past' t' := by
  cases h with
  | together hpast h => exact .together hpast (ht h)
  | parted hpast hbefore hresult hx hop => exact .parted hpast hbefore hresult hx hop

theorem parted_append {x x' : Tick g capacity} {operation : Operation}
    (hpast : List.Forall₂ (SameTick R) past past') (hbefore : R x.before x'.before)
    (hresult : x'.result = x.result) (hx : x.Executes operation) (hop : parting operation)
    (later later' more more' : List (Tick g capacity)) :
    InStep R parting (past ++ x :: later ++ more) t (past' ++ x' :: later' ++ more') t' := by
  rw [List.append_assoc, List.append_assoc]
  exact .parted hpast hbefore hresult hx hop

end InStep

namespace Machine

variable {R : State g capacity → State g capacity → Prop} {parting : Operation → Prop}
  {m m' : Machine g capacity} {past past' : List (Tick g capacity)}

/-! ## The ticks of a machine -/

theorem ticks_inStep (hR : KeptInStep R parting) (n : Nat) (records records' : List String)
    (h : InStep R parting past m.state past' m'.state) :
    InStep R parting (past ++ m.nextTicks n) (ticks n m records).machine.state
      (past' ++ m'.nextTicks n) (ticks n m' records').machine.state := by
  induction n generalizing m m' past past' records records' with
  | zero =>
    rw [nextTicks, nextTicks, List.append_nil, List.append_nil]
    exact h
  | succ n ih =>
    -- the relation speaks of states, and can only be taken apart with variables for them
    generalize hs : m.state = s at h
    generalize hs' : m'.state = s' at h
    cases h with
    | together hpast h =>
      subst hs hs'
      rcases m.tick_cases with ⟨operation, t, hs, htick⟩ | ⟨f, hf, htick⟩ |
        ⟨length, hlength, htick⟩
      · obtain ⟨t', hs', hopcode, ht⟩ := hR.okTick h hs
        have hresult : (m'.state.okTick operation t').result =
            (m.state.okTick operation t).result := by
          rw [State.okTick, State.okTick, hopcode]
        rw [nextTicks_of_steps hs, nextTicks_of_steps hs', ticks, ticks, htick, tick_of_steps hs']
        -- once the machines have parted nothing more is asked of either
        by_cases hop : parting operation
        · exact .parted hpast h hresult (State.executes_okTick.mpr rfl) hop
        · rw [List.append_cons, List.append_cons past']
          exact ih _ _ (.together
            (List.rel_append hpast (.cons ⟨h, hresult, ht hop⟩ .nil)) (ht hop))
      · obtain ⟨hf', hlocate, ht⟩ := hR.errorTick h hf
        have hresult : Except.error (.fault (m'.state.locate f)) =
            (Except.error (.fault (m.state.locate f)) : Except Failure Instruction) := by
          rw [hlocate]
        rw [nextTicks_of_fault hf, nextTicks_of_fault hf', ticks, ticks, htick,
          tick_of_step_error hf']
        exact .together (List.rel_append hpast (.cons ⟨h, hresult, ht⟩ .nil)) ht
      · -- a refused tick leaves nothing to look back on, in neither machine
        have he := hlength.stepFailure?_eq
        have he' := (hR.errorTick h he).1
        rw [nextTicks_of_range he, nextTicks_of_range he', ticks, ticks, htick,
          tick_of_step_error he', List.append_nil, List.append_nil]
        exact .together hpast h
    | parted hpast hbefore hresult hx hop =>
      exact InStep.parted_append hpast hbefore hresult hx hop _ _ _ _

theorem tick_inStep (hR : KeptInStep R parting)
    (h : InStep R parting past m.state past' m'.state) :
    InStep R parting (past ++ m.nextTicks 1) m.tick.machine.state
      (past' ++ m'.nextTicks 1) m'.tick.machine.state := by
  rw [← m.machine_ticks_one [], ← m'.machine_ticks_one []]
  exact ticks_inStep hR 1 [] [] h

/-! ## Sessions -/

theorem state_loadRom (m : Machine g capacity) (rom : List Byte) :
    (m.loadRom rom).machine.state =
      if maxRomSize < rom.length then m.state
      else { m.state with memory := m.state.memory.write programStart rom } := by
  rw [loadRom, State.loadRom]
  by_cases h : maxRomSize < rom.length
  · rw [if_pos h, if_pos h]
    rfl
  · rw [if_neg h, if_neg h]
    rfl

theorem state_loadRomFile (m : Machine g capacity) (files : Storage) (name : String) :
    (m.loadRomFile files name).machine.state =
      match files.read name with
      | .ok rom => (m.loadRom rom).machine.state
      | .error _ => m.state := by
  rw [loadRomFile, State.loadRomFile]
  cases files.read name with
  | error reason => cases reason <;> rfl
  | ok rom =>
    simp only [loadRom]
    cases m.state.loadRom rom <;> rfl

theorem state_updateKeys (m : Machine g capacity) (keys : List Bool) :
    (m.updateKeys keys).machine.state =
      if h : keys.length = keyCount then
        { m.state with keys := ⟨keys.toArray, by simpa using h⟩ }
      else m.state := by
  rw [updateKeys, State.updateKeys]
  by_cases h : keys.length = keyCount
  · rw [dif_pos h, dif_pos h]
  · rw [dif_neg h, dif_neg h]
    rfl

theorem loadRom_inStep (hR : KeptInStep R parting) (rom : List Byte)
    (h : InStep R parting past m.state past' m'.state) :
    InStep R parting past (m.loadRom rom).machine.state past' (m'.loadRom rom).machine.state := by
  refine h.map fun h ↦ ?_
  rw [state_loadRom, state_loadRom]
  split
  · exact h
  · exact hR.rom h rom

theorem obey_inStep (hR : KeptInStep R parting)
    (hreset : R (State.initial g capacity (Key.ofSeed m.seed))
      (State.initial g capacity (Key.ofSeed m'.seed))) (c : Command)
    (h : InStep R parting past m.state past' m'.state) :
    InStep R parting (m.remember past c) (m.obey c).machine.state
      (m'.remember past' c) (m'.obey c).machine.state := by
  cases c with
  | loadRom rom => exact loadRom_inStep hR rom h
  | loadRomFile files name =>
    show InStep R parting past (m.loadRomFile files name).machine.state
      past' (m'.loadRomFile files name).machine.state
    rw [state_loadRomFile, state_loadRomFile]
    cases files.read name with
    | error reason => exact h
    | ok rom => exact loadRom_inStep hR rom h
  | updateKeys keys =>
    show InStep R parting past (m.updateKeys keys).machine.state
      past' (m'.updateKeys keys).machine.state
    refine h.map fun h ↦ ?_
    rw [state_updateKeys, state_updateKeys]
    split
    · exact hR.keys h _
    · exact h
  | tick => exact tick_inStep hR h
  | run count progress =>
    show InStep R parting _ (m.run count progress).machine.state
      _ (m'.run count progress).machine.state
    -- both machines have a bar for the same numbers of ticks
    rw [run_eq, run_eq, remember, remember]
    split
    · exact ticks_inStep hR _ _ _ h
    · rwa [List.append_nil, List.append_nil]
  | reset => exact .together .nil hreset
  | setLevel level => exact h

/-- **Two machines told the same stay in step.** If a relation holds of their states and of their
first states, it holds at the end of every session, unless they have parted since the last reset. -/
theorem after_inStep (hR : KeptInStep R parting) (m m' : Machine g capacity)
    (hreset : R (State.initial g capacity (Key.ofSeed m.seed))
      (State.initial g capacity (Key.ofSeed m'.seed)))
    (past past' : List (Tick g capacity)) (h : InStep R parting past m.state past' m'.state)
    (commands : List Command) :
    InStep R parting (m.history past commands) (m.after commands).state
      (m'.history past' commands) (m'.after commands).state := by
  induction commands generalizing m m' past past' with
  | nil => exact h
  | cons c commands ih =>
    rw [after_cons, after_cons, history, history]
    refine ih _ _ ?_ _ _ (obey_inStep hR hreset c h)
    rwa [seed_obey, seed_obey]

end Machine

end ChipEight
