import ChipEight.Proofs.Retries

/-!
# What the timers show

A timer counts ticks. Every tick takes one off it, as far as zero, and it does so even if it faults;
then one operation may set the timer, and no other touches it. So a timer tells how many ticks ago
it was set, and to what.

## One law for both

The two timers differ in the operation that sets them and in nothing else. What is proved here is
proved of a `Timer`, and `Timer.setter` is the only place where they are told apart. Only the delay
timer can be read, and a read comes after the count of its own tick.

## Readings

`Timer.reading` follows a timer through the ticks of a session: it is taken from the last tick that
set the timer and is one less for every tick since. That a state shows this reading is the invariant
of a session; the closed forms are about lists of ticks alone.
-/

namespace ChipEight

variable {g : Geometry} {capacity : Nat}

inductive Timer where
  /-- The timer that programs can read. -/
  | delay
  /-- The timer that sounds while it runs. -/
  | sound
deriving DecidableEq, Repr

/-- The operation that sets a timer. -/
def Timer.setter : Timer → Operation
  | .delay => .setDelay
  | .sound => .setSound

def Timer.other : Timer → Timer
  | .delay => .sound
  | .sound => .delay

namespace State

def timer (s : State g capacity) : Timer → Byte
  | .delay => s.delayTimer
  | .sound => s.soundTimer

def withTimer (s : State g capacity) (b : Byte) : Timer → State g capacity
  | .delay => { s with delayTimer := b }
  | .sound => { s with soundTimer := b }

/-! ## One cycle -/

theorem toNat_timer_tickTimers (s : State g capacity) (τ : Timer) :
    (s.tickTimers.timer τ).toNat = (s.timer τ).toNat - 1 := by
  cases τ with
  | delay => exact Byte.toNat_ofNat_sub s.delayTimer 1
  | sound => exact Byte.toNat_ofNat_sub s.soundTimer 1

theorem timer_effect (s : State g capacity) (o : Opcode) (operation : Operation) (τ : Timer) :
    (s.effect o operation).timer τ =
      if operation = τ.setter then s.register o.n2 else s.timer τ := by
  cases τ with
  | delay =>
    rw [timer, delayTimer_effect]
    cases operation <;> rfl
  | sound =>
    rw [timer, soundTimer_effect]
    cases operation <;> rfl

/-- A cycle counts a timer before it may set it. -/
theorem timer_of_steps {s t : State g capacity} {operation : Operation}
    (hs : s.Steps operation t) (τ : Timer) :
    t.timer τ =
      if operation = τ.setter then s.register s.opcode.n2 else s.tickTimers.timer τ := by
  have heffect := s.tickTimers.timer_effect s.opcode operation τ
  rw [hs.eq_next]
  cases τ with
  | delay => exact heffect
  | sound => exact heffect

/-- What a cycle reads from the delay timer has been counted by the same cycle. -/
theorem register_of_steps_readDelay {s t : State g capacity} (hs : s.Steps .readDelay t) :
    t.register s.opcode.n2 = s.tickTimers.delayTimer := by
  rw [hs.eq_next]
  show (s.tickTimers.registers.set _ _)[s.opcode.n2] = _
  rw [Fin.getElem_fin, Vector.getElem_set_self]

end State

/-! ## One tick -/

namespace Tick

/-- What a tick makes of a timer. -/
structure Counts (τ : Timer) (r : Tick g capacity) : Prop where
  /-- It leaves in the timer exactly what it sets it to. -/
  set : r.Executes τ.setter → ∃ i, r.result = .ok i ∧ r.after.timer τ = r.before.register i.x
  /-- If it does not set the timer it counts it. -/
  count : ¬r.Executes τ.setter → (r.after.timer τ).toNat = (r.before.timer τ).toNat - 1

/-- That a tick which reads the delay timer has stored it as counted by itself. -/
def ReadsDelay (r : Tick g capacity) : Prop :=
  r.Executes .readDelay →
    ∃ i, r.result = .ok i ∧ (r.after.register i.x).toNat = r.before.delayTimer.toNat - 1

end Tick

namespace State

variable {s t : State g capacity} {operation : Operation}

theorem counts_okTick (hs : s.Steps operation t) (τ : Timer) :
    (s.okTick operation t).Counts τ where
  set h := by
    obtain rfl := executes_okTick.mp h
    exact ⟨_, rfl, (timer_of_steps hs τ).trans (if_pos rfl)⟩
  count h := by
    have hne : operation ≠ τ.setter := fun hop ↦ h (executes_okTick.mpr hop)
    show (t.timer τ).toNat = (s.timer τ).toNat - 1
    rw [timer_of_steps hs τ, if_neg hne, toNat_timer_tickTimers]

theorem counts_errorTick (s : State g capacity) (e : Failure) (τ : Timer) :
    (s.errorTick e).Counts τ where
  set h := absurd h not_executes_errorTick
  count _ := s.toNat_timer_tickTimers τ

theorem readsDelay_okTick (hs : s.Steps operation t) : (s.okTick operation t).ReadsDelay := by
  intro h
  obtain rfl := executes_okTick.mp h
  refine ⟨_, rfl, ?_⟩
  show (t.register s.opcode.n2).toNat = s.delayTimer.toNat - 1
  rw [register_of_steps_readDelay hs]
  exact s.toNat_timer_tickTimers .delay

theorem readsDelay_errorTick (s : State g capacity) (e : Failure) : (s.errorTick e).ReadsDelay :=
  fun h ↦ absurd h not_executes_errorTick

end State

/-! ## Many ticks -/

namespace Timer

variable (τ : Timer)

/-- What a timer that showed some number shows after some ticks. -/
def reading (start : Nat) (past : List (Tick g capacity)) : Nat :=
  past.foldl (fun v r ↦ if r.Executes τ.setter then (r.after.timer τ).toNat else v - 1) start

theorem reading_append (start : Nat) (past more : List (Tick g capacity)) :
    τ.reading start (past ++ more) = τ.reading (τ.reading start past) more :=
  List.foldl_append

theorem reading_cons (start : Nat) (r : Tick g capacity) (later : List (Tick g capacity)) :
    τ.reading start (r :: later) =
      τ.reading (if r.Executes τ.setter then (r.after.timer τ).toNat else start - 1) later := rfl

variable {τ}

theorem reading_of_unset {past : List (Tick g capacity)} (h : ∀ r ∈ past, ¬r.Executes τ.setter)
    (start : Nat) : τ.reading start past = start - past.length := by
  induction past generalizing start with
  | nil => rfl
  | cons r past ih =>
    obtain ⟨hr, hpast⟩ := List.forall_mem_cons.mp h
    rw [reading_cons, if_neg hr, ih hpast, List.length_cons]
    omega

theorem reading_of_set {r : Tick g capacity} {later : List (Tick g capacity)}
    (hr : r.Executes τ.setter) (h : ∀ x ∈ later, ¬x.Executes τ.setter) (start : Nat)
    (earlier : List (Tick g capacity)) :
    τ.reading start (earlier ++ r :: later) = (r.after.timer τ).toNat - later.length := by
  rw [reading_append, reading_cons, if_pos hr, reading_of_unset h]

end Timer

namespace State

/-- That a timer shows its reading after some ticks, each of which has counted, set or read it as it
should. -/
structure Shows (s : State g capacity) (τ : Timer) (start : Nat) (past : List (Tick g capacity)) :
    Prop where
  timer_eq : (s.timer τ).toNat = τ.reading start past
  counts : ∀ r ∈ past, r.Counts τ
  readsDelay : ∀ r ∈ past, r.ReadsDelay

namespace Shows

variable {s : State g capacity} {τ : Timer} {start : Nat} {past : List (Tick g capacity)}

theorem append {r : Tick g capacity} (h : s.Shows τ start past) (hbefore : r.before = s)
    (hcounts : r.Counts τ) (hreads : r.ReadsDelay) : r.after.Shows τ start (past ++ [r]) where
  timer_eq := by
    rw [Timer.reading_append, ← h.timer_eq, Timer.reading_cons, ← hbefore]
    split
    · rfl
    · next hr => exact hcounts.count hr
  counts := List.forall_mem_append.mpr ⟨h.counts, List.forall_mem_singleton.mpr hcounts⟩
  readsDelay := List.forall_mem_append.mpr ⟨h.readsDelay, List.forall_mem_singleton.mpr hreads⟩

theorem kept (τ : Timer) (start : Nat) :
    Kept fun (s : State g capacity) past ↦ s.Shows τ start past where
  okTick h hs := h.append rfl (counts_okTick hs τ) (readsDelay_okTick hs)
  errorTick {s _ _} h _ := h.append rfl (s.counts_errorTick _ τ) (s.readsDelay_errorTick _)
  memory h _ := by cases τ <;> exact ⟨h.timer_eq, h.counts, h.readsDelay⟩
  keys h _ := by cases τ <;> exact ⟨h.timer_eq, h.counts, h.readsDelay⟩

end Shows

end State

/-! ## Each for itself -/

namespace State

variable (s : State g capacity) (b : Byte) (τ : Timer)

theorem stepFailure?_withTimer : (s.withTimer b τ).stepFailure? = s.stepFailure? := by
  cases τ with
  | delay => exact s.stepFailure?_besides s.rng s.screen b s.soundTimer
  | sound => exact s.stepFailure?_besides s.rng s.screen s.delayTimer b

variable {s} in
theorem Steps.withTimer {t : State g capacity} {operation : Operation} (hs : s.Steps operation t) :
    ∃ t', (s.withTimer b τ).Steps operation t' := by
  cases τ with
  | delay => exact ⟨_, hs.besides s.rng s.screen b s.soundTimer⟩
  | sound => exact ⟨_, hs.besides s.rng s.screen s.delayTimer b⟩

theorem timer_tickTimers_withTimer_other :
    (s.withTimer b τ.other).tickTimers.timer τ = s.tickTimers.timer τ := by
  cases τ <;> rfl

theorem timer_leftBy_withTimer_other (e : Failure) :
    ((s.withTimer b τ.other).leftBy e).timer τ = (s.leftBy e).timer τ := by
  cases τ <;> cases e <;> rfl

end State

namespace Machine

def withTimer (m : Machine g capacity) (b : Byte) (τ : Timer) : Machine g capacity :=
  { m with state := m.state.withTimer b τ }

/-- What a tick makes of a timer has nothing to do with what the other timer shows. -/
theorem timer_tick_withTimer_other (m : Machine g capacity) (b : Byte) (τ : Timer) :
    (m.withTimer b τ.other).tick.machine.state.timer τ = m.tick.machine.state.timer τ := by
  rcases m.state.steps_or_stepFailure? with ⟨operation, t, hs⟩ | ⟨e, he⟩
  · obtain ⟨t', hs'⟩ := hs.withTimer b τ.other
    rw [tick_of_steps hs, tick_of_steps (m := m.withTimer b τ.other) hs']
    show t'.timer τ = t.timer τ
    -- both cycles execute the same instruction, and registers are no timers
    rw [State.timer_of_steps hs, State.timer_of_steps hs',
      State.timer_tickTimers_withTimer_other]
    cases τ <;> rfl
  · have he' : (m.withTimer b τ.other).state.stepFailure? = some e :=
      (m.state.stepFailure?_withTimer b τ.other).trans he
    rw [(tick_of_stepFailure? he).2, (tick_of_stepFailure? he').2]
    exact m.state.timer_leftBy_withTimer_other b τ e

/-- **Timers count ticks.** In a session without a reset a timer shows what it showed at the
beginning less the number of ticks, or what it was last set to less the number of ticks since; it
does not go below zero. Each tick has counted the timer or has left in it exactly what it set it to,
a tick that reads the delay timer gets it as counted by itself, and neither timer has an influence
on what a tick makes of the other. -/
theorem timer_counts_ticks (m : Machine g capacity) (commands : List Command)
    (hreset : .reset ∉ commands) (τ : Timer) :
    ((∀ r ∈ m.history [] commands, ¬r.Executes τ.setter) →
      ((m.after commands).state.timer τ).toNat =
        (m.state.timer τ).toNat - (m.history [] commands).length) ∧
    (∀ earlier r later, m.history [] commands = earlier ++ r :: later → r.Executes τ.setter →
      (∀ x ∈ later, ¬x.Executes τ.setter) →
      ∃ i, r.result = .ok i ∧ r.after.timer τ = r.before.register i.x ∧
        ((m.after commands).state.timer τ).toNat =
          (r.before.register i.x).toNat - later.length) ∧
    (∀ r ∈ m.history [] commands, r.Counts τ ∧ r.ReadsDelay) ∧
    ∀ b : Byte,
      (m.withTimer b τ.other).tick.machine.state.timer τ = m.tick.machine.state.timer τ := by
  have hshows : (m.after commands).state.Shows τ (m.state.timer τ).toNat (m.history [] commands) :=
    after_keeps_of_no_reset (State.Shows.kept τ _).keptByCommands m [] commands hreset
      ⟨rfl, List.forall_mem_nil _, List.forall_mem_nil _⟩
  refine ⟨fun hunset ↦ ?_, fun earlier r later hpast hr hlater ↦ ?_, fun r hr ↦ ?_, fun b ↦ ?_⟩
  · rw [hshows.timer_eq, Timer.reading_of_unset hunset]
  · have hmem : r ∈ m.history [] commands := by
      rw [hpast]
      exact List.mem_append_right _ List.mem_cons_self
    obtain ⟨i, hi, hset⟩ := (hshows.counts r hmem).set hr
    refine ⟨i, hi, hset, ?_⟩
    rw [hshows.timer_eq, hpast, Timer.reading_of_set hr hlater, hset]
  · exact ⟨hshows.counts r hr, hshows.readsDelay r hr⟩
  · exact m.timer_tick_withTimer_other b τ

/-- The delay timer has been set to five. Then it is read, the state of a single key is refused, and
two ticks fail at a word that is no instruction. -/
theorem timer_counts_ticks_of_failed_ticks :
    let m := (new (.usual 0) (.plain .info)).after
      [.loadRom [0x60, 0x05, 0xF0, 0x15, 0xF1, 0x07], .run 2 false]
    (m.state.timer .delay).toNat = 5 ∧
      ((m.after [.tick, .updateKeys [true], .tick, .tick]).state.timer .delay).toNat = 2 := by
  intro m
  obtain ⟨hstart, hlength, hunset⟩ :
      (m.state.timer .delay).toNat = 5 ∧
      (m.history [] [.tick, .updateKeys [true], .tick, .tick]).length = 3 ∧
      ∀ r ∈ m.history [] [.tick, .updateKeys [true], .tick, .tick],
        ¬r.Executes (Timer.setter .delay) := by decide +kernel
  have hreset : Command.reset ∉ [Command.tick, .updateKeys [true], .tick, .tick] := by simp
  exact ⟨hstart, by rw [(m.timer_counts_ticks _ hreset .delay).1 hunset, hlength, hstart]⟩

end Machine

end ChipEight
