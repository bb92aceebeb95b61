import ChipEight.Proofs.ReachableStates

/-!
# Calls and returns

The call stack is the memory that a machine has of its calls. This file tells what it remembers:
read as brackets, the successful calls and returns of a session match, and the stack holds the
places of the calls that are still open, oldest first.

## Brackets

`Balanced` are the lists of ticks in which every call has its return, and `Pending` splits any list
at the calls that have none. Ticks that fail are no brackets, whatever instruction they have come
to.

Both are relations and do not say how the calls are to be found. `pendingCalls` finds them by going
through the ticks once, which shows that there is only one way to pair brackets.

## Addresses

A call saves the low twelve bits of where it stands, and a return wraps around the end of the
address space. In a session neither is ever seen: an instruction stands at every program counter, so
the address of a call has no other bits, and two more is still an address.
-/

namespace ChipEight

variable {g : Geometry} {capacity : Nat}

/-! ## Brackets -/

/-- Ticks in which every call has its return. -/
inductive Balanced : List (Tick g capacity) → Prop
  /-- No ticks. -/
  | nil : Balanced []
  /-- A tick that is no bracket. -/
  | other {h r} (hh : Balanced h) (hcall : ¬r.Executes .call) (hret : ¬r.Executes .ret) :
    Balanced (h ++ [r])
  /-- A call with its return. -/
  | pair {h c k r} (hh : Balanced h) (hc : c.Executes .call) (hk : Balanced k)
    (hr : r.Executes .ret) : Balanced (h ++ (c :: k ++ [r]))

/-- The calls that have no return yet among some ticks, oldest first. -/
inductive Pending : List (Tick g capacity) → List (Tick g capacity) → Prop
  /-- Every call has its return. -/
  | balanced {k} (hk : Balanced k) : Pending k []
  /-- One more call, after which every call has its return. -/
  | call {h calls c k} (hh : Pending h calls) (hc : c.Executes .call) (hk : Balanced k) :
    Pending (h ++ c :: k) (calls ++ [c])

/-- Whether a call is the one that a return after the given ticks belongs to. -/
def LastPending (h : List (Tick g capacity)) (c : Tick g capacity) : Prop :=
  ∃ a k, h = a ++ c :: k ∧ c.Executes .call ∧ Balanced k

def timesExecuted (operation : Operation) (h : List (Tick g capacity)) : Nat :=
  h.countP fun r ↦ r.Executes operation

section Brackets

variable {h k calls : List (Tick g capacity)} {r c : Tick g capacity}

theorem Balanced.append (hh : Balanced h) (hk : Balanced k) : Balanced (h ++ k) := by
  -- balanced ticks grow at their end, so the induction is on the later ones
  induction hk with
  | nil => rwa [List.append_nil]
  | other _ hcall hret ih =>
    rw [← List.append_assoc]
    exact ih.other hcall hret
  | pair _ hc hk hr ih _ =>
    rw [← List.append_assoc]
    exact ih.pair hc hk hr

theorem Pending.append_balanced (hh : Pending h calls) (hk : Balanced k) :
    Pending (h ++ k) calls := by
  cases hh with
  | balanced hh => exact .balanced (hh.append hk)
  | call hh hc hk' =>
    rw [List.append_assoc, List.cons_append]
    exact hh.call hc (hk'.append hk)

theorem Pending.other (hh : Pending h calls) (hcall : ¬r.Executes .call)
    (hret : ¬r.Executes .ret) : Pending (h ++ [r]) calls :=
  hh.append_balanced (Balanced.nil.other hcall hret)

/-- The latest open call stands before ticks in which every call has its return. -/
theorem Pending.of_concat (hh : Pending h (calls ++ [c])) :
    ∃ a k, h = a ++ c :: k ∧ Pending a calls ∧ c.Executes .call ∧ Balanced k := by
  generalize hall : calls ++ [c] = all at hh
  cases hh with
  | balanced => simp at hall
  | call ha hc hk =>
    obtain ⟨rfl, hlast⟩ := List.append_inj' hall rfl
    obtain rfl := List.singleton_inj.mp hlast
    exact ⟨_, _, rfl, ha, hc, hk⟩

theorem Pending.ret (hh : Pending h (calls ++ [c])) (hr : r.Executes .ret) :
    LastPending h c ∧ Pending (h ++ [r]) calls := by
  obtain ⟨a, k, rfl, ha, hc, hk⟩ := hh.of_concat
  refine ⟨⟨a, k, rfl, hc, hk⟩, ?_⟩
  rw [List.append_assoc]
  exact ha.append_balanced (Balanced.nil.pair hc hk hr)

/-! ## Only one way to pair them -/

theorem Tick.Executes.eq {operation other : Operation} (h : r.Executes operation)
    (h' : r.Executes other) : operation = other :=
  Option.some.inj (h.symm.trans h')

/-- The calls that are open after some ticks, when some were open before. -/
def pendingCalls (calls : List (Tick g capacity)) : List (Tick g capacity) → List (Tick g capacity)
  | [] => calls
  | r :: h =>
    if r.Executes .call then pendingCalls (calls ++ [r]) h
    else if r.Executes .ret then pendingCalls calls.dropLast h
    else pendingCalls calls h

theorem pendingCalls_append (calls h k : List (Tick g capacity)) :
    pendingCalls calls (h ++ k) = pendingCalls (pendingCalls calls h) k := by
  induction h generalizing calls with
  | nil => rfl
  | cons r h ih =>
    rw [List.cons_append, pendingCalls, pendingCalls]
    split
    · exact ih _
    · split
      · exact ih _
      · exact ih _

theorem pendingCalls_call (hr : r.Executes .call) (h : List (Tick g capacity)) :
    pendingCalls calls (r :: h) = pendingCalls (calls ++ [r]) h := by
  rw [pendingCalls, if_pos hr]

theorem pendingCalls_ret (hr : r.Executes .ret) (h : List (Tick g capacity)) :
    pendingCalls calls (r :: h) = pendingCalls calls.dropLast h := by
  have hcall : ¬r.Executes .call := fun h ↦ nomatch hr.eq h
  rw [pendingCalls, if_neg hcall, if_pos hr]

theorem Balanced.pendingCalls_eq (hk : Balanced k) (calls : List (Tick g capacity)) :
    pendingCalls calls k = calls := by
  induction hk generalizing calls with
  | nil => rfl
  | other _ hcall hret ih =>
    rw [pendingCalls_append, ih, pendingCalls, if_neg hcall, if_neg hret]
    rfl
  | pair _ hc _ hr ihh ihk =>
    rw [pendingCalls_append, ihh, List.cons_append, pendingCalls_call hc, pendingCalls_append, ihk,
      pendingCalls_ret hr, List.dropLast_concat]
    rfl

theorem Pending.pendingCalls_eq (hh : Pending h calls) : pendingCalls [] h = calls := by
  induction hh with
  | balanced hk => exact hk.pendingCalls_eq []
  | call _ hc hk ih => rw [pendingCalls_append, ih, pendingCalls_call hc, hk.pendingCalls_eq]

theorem Pending.unique {other : List (Tick g capacity)} (hh : Pending h calls)
    (ho : Pending h other) : other = calls := by
  rw [← hh.pendingCalls_eq, ho.pendingCalls_eq]

theorem LastPending.unique {other : Tick g capacity} (hc : LastPending h c)
    (ho : LastPending h other) : other = c := by
  -- going through the ticks leaves such a call at the end, whatever was open before it
  have hlast {d : Tick g capacity} (hd : LastPending h d) :
      (pendingCalls [] h).getLast? = some d := by
    obtain ⟨a, k, rfl, hcall, hk⟩ := hd
    rw [pendingCalls_append, pendingCalls_call hcall, hk.pendingCalls_eq, List.getLast?_concat]
  exact Option.some.inj ((hlast ho).symm.trans (hlast hc))

/-! ## Counting -/

theorem timesExecuted_nil (operation : Operation) :
    timesExecuted operation ([] : List (Tick g capacity)) = 0 := rfl

theorem timesExecuted_append (operation : Operation) (h k : List (Tick g capacity)) :
    timesExecuted operation (h ++ k) = timesExecuted operation h + timesExecuted operation k :=
  List.countP_append

theorem timesExecuted_cons (operation : Operation) (r : Tick g capacity)
    (h : List (Tick g capacity)) :
    timesExecuted operation (r :: h) =
      timesExecuted operation h + if r.Executes operation then 1 else 0 := by
  simp [timesExecuted, List.countP_cons]

theorem Balanced.timesExecuted_eq (hk : Balanced k) :
    timesExecuted .call k = timesExecuted .ret k := by
  induction hk with
  | nil => rfl
  | other _ hcall hret ih =>
    simp only [timesExecuted_append, timesExecuted_cons, timesExecuted_nil, ih, if_neg hcall,
      if_neg hret]
  | pair _ hc _ hr ihh ihk =>
    have hc' : ¬Tick.Executes _ .ret := fun h ↦ nomatch hc.eq h
    have hr' : ¬Tick.Executes _ .call := fun h ↦ nomatch hr.eq h
    simp only [timesExecuted_append, timesExecuted_cons, timesExecuted_nil, ihh, ihk, if_pos hc,
      if_pos hr, if_neg hc', if_neg hr']

/-- As many calls are open as there were more calls than returns. -/
theorem Pending.length_add (hh : Pending h calls) :
    calls.length + timesExecuted .ret h = timesExecuted .call h := by
  induction hh with
  | balanced hk => rw [hk.timesExecuted_eq, List.length_nil, Nat.zero_add]
  | call _ hc hk ih =>
    have hc' : ¬Tick.Executes _ .ret := fun h ↦ nomatch hc.eq h
    rw [timesExecuted_append, timesExecuted_append, timesExecuted_cons, timesExecuted_cons,
      if_pos hc, if_neg hc', hk.timesExecuted_eq, ← ih, List.length_append, List.length_singleton]
    omega

end Brackets

/-! ## The stack of a session -/

/-- That the stack of a state tells the open calls of the ticks that led to it, and that every
return among these ticks went back to its call. -/
structure State.Recalls (s : State g capacity) (past : List (Tick g capacity)) : Prop where
  /-- Every program counter on the way has an instruction. -/
  wellFormed : s.WellFormed
  /-- On the stack are the places of the open calls. -/
  items : ∃ calls, Pending past calls ∧ s.stack.items = calls.map fun c ↦ c.before.pc
  /-- A return went on after its call. -/
  returns : ∀ h r, h ++ [r] <+: past → r.Executes .ret →
    ∃ c, LastPending h c ∧ r.after.pc.toNat = c.before.pc.toNat + 2

namespace State.Recalls

variable {s t : State g capacity} {past : List (Tick g capacity)} {operation : Operation}

theorem initial (key : Key) : (State.initial g capacity key).Recalls [] where
  wellFormed := wellFormed_initial key
  items := ⟨[], .balanced .nil, CallStack.items_empty⟩
  returns := by
    intro h r hprefix
    simp at hprefix

theorem returns_append {x : Tick g capacity} (h : s.Recalls past)
    (hx : x.Executes .ret → ∃ c, LastPending past c ∧ x.after.pc.toNat = c.before.pc.toNat + 2) :
    ∀ k r, k ++ [r] <+: past ++ [x] → r.Executes .ret →
      ∃ c, LastPending k c ∧ r.after.pc.toNat = c.before.pc.toNat + 2 := by
  intro k r hprefix hr
  rcases List.prefix_concat_iff.mp hprefix with heq | hprefix
  · obtain ⟨rfl, hlast⟩ := List.append_inj' heq rfl
    obtain rfl := List.singleton_inj.mp hlast
    exact hx hr
  · exact h.returns k r hprefix hr

theorem other {x : Tick g capacity} (h : s.Recalls past) (ht : t.WellFormed)
    (hstack : t.stack = s.stack) (hcall : ¬x.Executes .call) (hret : ¬x.Executes .ret) :
    t.Recalls (past ++ [x]) where
  wellFormed := ht
  items := by
    obtain ⟨calls, hpending, hitems⟩ := h.items
    exact ⟨calls, hpending.other hcall hret, by rw [hstack, hitems]⟩
  returns := h.returns_append fun hx ↦ absurd hx hret

theorem call (h : s.Recalls past) (hs : s.Steps .call t) (hd : s.stack.depth ≠ capacity)
    (hstack : t.stack = s.stack.pushed s.pc.address) :
    t.Recalls (past ++ [s.okTick .call t]) where
  wellFormed := h.wellFormed.of_steps hs
  items := by
    obtain ⟨calls, hpending, hitems⟩ := h.items
    refine ⟨_, hpending.call (executes_okTick.mpr rfl) .nil, ?_⟩
    rw [hstack, CallStack.items_pushed _ hd, hitems, address_pc_of_le h.wellFormed.pc_le,
      List.map_append]
    rfl
  returns := h.returns_append fun hx ↦ nomatch executes_okTick.mp hx

theorem ret (h : s.Recalls past) (hs : s.Steps .ret t) (hd : s.stack.depth ≠ 0)
    (hstack : t.stack = s.stack.popped) : t.Recalls (past ++ [s.okTick .ret t]) := by
  have hret : (s.okTick .ret t).Executes .ret := executes_okTick.mpr rfl
  have hsplit := CallStack.items_popped hd
  -- the top of the stack is the place of the latest open call
  obtain ⟨calls, hpending, hitems⟩ := h.items
  obtain ⟨rest, last, rfl, hrest, hlast⟩ := List.map_eq_append_iff.mp (hitems.symm.trans hsplit)
  obtain ⟨c, rfl, htop⟩ := List.map_eq_singleton_iff.mp hlast
  obtain ⟨hmatch, hpending⟩ := hpending.ret hret
  -- so it is low enough for the return not to wrap
  have hle : s.stack.top.toNat ≤ 0xFFD := by
    refine h.wellFormed.items_le _ ?_
    rw [hsplit]
    exact List.mem_append_right _ List.mem_cons_self
  have hpc : t.pc.toNat = c.before.pc.toNat + 2 := by
    rw [hs.eq_next, toNat_pc_next, htop]
    show ((s.stack.items.getLast?.getD 0).toNat + 2) % 0x1000 = s.stack.top.toNat + 2
    rw [← CallStack.top_eq]
    omega
  exact ⟨h.wellFormed.of_steps hs, ⟨rest, hpending, by rw [hstack, hrest]⟩,
    h.returns_append fun _ ↦ ⟨c, hmatch, hpc⟩⟩

theorem kept : Kept fun (s : State g capacity) past ↦ s.Recalls past where
  okTick {s t past operation} h hs := by
    rcases stack_of_steps hs with ⟨rfl, hd, hstack⟩ | ⟨rfl, hd, hstack⟩ | ⟨hret, hcall, hstack⟩
    · exact h.ret hs hd hstack
    · exact h.call hs hd hstack
    · exact h.other (h.wellFormed.of_steps hs) hstack (mt executes_okTick.mp hcall)
        (mt executes_okTick.mp hret)
  errorTick h _ :=
    h.other (h.wellFormed.of_eq rfl rfl rfl) rfl not_executes_errorTick not_executes_errorTick
  memory h _ := ⟨h.wellFormed.of_eq rfl rfl rfl, h.items, h.returns⟩
  keys h _ := ⟨h.wellFormed.of_eq rfl rfl rfl, h.items, h.returns⟩

end State.Recalls

/-- **Calls and returns match.** However a machine is worked, its call stack holds the places of the
open calls since the last reset, oldest first. There is one choice of open calls, it leaves out as
many calls as there were returns, and every return has gone on right after the one call that it
belongs to. -/
theorem Machine.stack_recalls_calls (c : Config) (logger : Logger) (commands : List Command) :
    (∃ calls, (∀ other, Pending ((new c logger).history [] commands) other ↔ other = calls) ∧
      ((new c logger).after commands).state.stack.items = calls.map fun r ↦ r.before.pc) ∧
    ((((new c logger).after commands).state.stack.items.length : Int) =
      timesExecuted .call ((new c logger).history [] commands) -
        timesExecuted .ret ((new c logger).history [] commands)) ∧
    ∀ h r, h ++ [r] <+: (new c logger).history [] commands → r.Executes .ret →
      (∃ call, LastPending h call) ∧
      ∀ call, LastPending h call → r.after.pc.toNat = call.before.pc.toNat + 2 := by
  have hrecalls := after_induction State.Recalls.kept (new c logger) [] (State.Recalls.initial _)
    (State.Recalls.initial _) commands
  obtain ⟨calls, hpending, hitems⟩ := hrecalls.items
  refine ⟨⟨calls, fun other ↦ ⟨hpending.unique, fun h ↦ h ▸ hpending⟩, hitems⟩, ?_, ?_⟩
  · have hlength := hpending.length_add
    rw [hitems, List.length_map]
    omega
  · intro h r hprefix hr
    obtain ⟨call, hlast, hpc⟩ := hrecalls.returns h r hprefix hr
    exact ⟨⟨call, hlast⟩, fun other hother ↦ hlast.unique hother ▸ hpc⟩

end ChipEight
