import ChipEight.Proofs.Replies
import ChipEight.Proofs.SideBySide
import ChipEight.Proofs.Timers

/-!
# The sound timer is never read

The sound timer counts, and a program can set it. It is there for whoever makes the sound: no
operation looks at it, no fault depends on it, and nothing that is logged tells of it. So two
machines that differ in it alone cannot be told apart by anything that they are told to do.

The difference does not have to last. It is gone when a program sets the timer or when both have
counted to zero, and a reset ends it as well.

## From one cycle to sessions

Side by side, two machines are described by a relation between their states. If nothing can part the
two, then whatever is known of a cycle goes over to the replies: they have the same answer and the
same entries, and leave related states. This step is made here for any relation that is kept in step
and knows the program counter, which the trace of a tick shows.
-/

namespace ChipEight

variable {g : Geometry} {capacity : Nat} {α β : Type}

/-! ## Replies that are alike -/

namespace Reply

/-- That two replies have the same answer and the same entries, and leave related states. -/
structure Alike (R : State g capacity → State g capacity → Prop) (r r' : Reply g capacity α) :
    Prop where
  state : R r.state r'.state
  result : r'.result = r.result
  entries : r'.entries = r.entries

namespace Alike

variable {R : State g capacity → State g capacity → Prop} {r r' : Reply g capacity α}

theorem map (f : α → β) (h : Alike R r r') : Alike R (r.map f) (r'.map f) where
  state := h.state
  result := congrArg (Except.map f) h.result
  entries := h.entries

theorem andThen {next : α → State g capacity → Reply g capacity β} (h : Alike R r r')
    (hnext : ∀ a {t t'}, R t t' → Alike R (next a t) (next a t')) :
    Alike R (r.andThen next) (r'.andThen next) := by
  rw [Reply.andThen, Reply.andThen, h.result]
  cases r.result with
  | error e => exact ⟨h.state, rfl, h.entries⟩
  | ok a =>
    have hlast := hnext a h.state
    exact ⟨hlast.state, hlast.result, congrArg₂ (· ++ ·) h.entries hlast.entries⟩

end Alike

end Reply

namespace State

variable {R : State g capacity → State g capacity → Prop} {s s' : State g capacity}

theorem becoming_loadRom_alike (hR : KeptInStep R fun _ ↦ False) (h : R s s') (rom : List Byte)
    (entries : List LogEntry) :
    Reply.Alike R (s.becoming ((s.loadRom rom).mapError .fault) entries)
      (s'.becoming ((s'.loadRom rom).mapError .fault) entries) := by
  rw [loadRom, loadRom]
  split
  · exact ⟨h, rfl, rfl⟩
  · exact ⟨hR.rom h rom, rfl, rfl⟩

theorem becoming_loadRomFile_alike (hR : KeptInStep R fun _ ↦ False) (h : R s s')
    (files : Storage) (name : String) (entries : List LogEntry) :
    Reply.Alike R (s.becoming (s.loadRomFile files name) entries)
      (s'.becoming (s'.loadRomFile files name) entries) := by
  rw [loadRomFile, loadRomFile]
  cases files.read name with
  | ok rom => exact becoming_loadRom_alike hR h rom entries
  | error reason => cases reason <;> exact ⟨h, rfl, rfl⟩

theorem becoming_updateKeys_alike (hR : KeptInStep R fun _ ↦ False) (h : R s s')
    (keys : List Bool) (entries : List LogEntry) :
    Reply.Alike R (s.becoming (s.updateKeys keys) entries)
      (s'.becoming (s'.updateKeys keys) entries) := by
  rw [updateKeys, updateKeys]
  split
  · exact ⟨hR.keys h _, rfl, rfl⟩
  · exact ⟨h, rfl, rfl⟩

variable (hR : KeptInStep R fun _ ↦ False) (hpc : ∀ {s s'}, R s s' → s'.pc = s.pc)
include hR hpc

theorem tickReply_alike (h : R s s') : Reply.Alike R s.tickReply s'.tickReply := by
  rcases s.steps_or_stepFailure? with ⟨operation, t, hs⟩ | ⟨e, he⟩
  · obtain ⟨t', hs', hopcode, ht⟩ := hR.okTick h hs
    rw [tickReply_of_steps hs, tickReply_of_steps hs', hopcode, hpc h]
    exact ⟨ht id, rfl, rfl⟩
  · obtain ⟨he', hlocate, ht⟩ := hR.errorTick h he
    rcases fault_or_overflows he with ⟨f, rfl⟩ | ⟨length, -, rfl⟩
    · rw [tickReply_of_fault he, tickReply_of_fault he', hlocate]
      exact ⟨ht, rfl, rfl⟩
    · rw [tickReply_of_range he, tickReply_of_range he']
      exact ⟨h, rfl, rfl⟩

theorem ticksReply_alike (n : Nat) (h : R s s') :
    Reply.Alike R (s.ticksReply n) (s'.ticksReply n) := by
  induction n generalizing s s' with
  | zero => exact ⟨h, rfl, rfl⟩
  | succ n ih => exact (tickReply_alike hR hpc h).andThen fun _ _ _ ht ↦ ih ht

theorem runReply_alike (h : R s s') (count : Int) (progress : Bool) :
    Reply.Alike R (s.runReply count progress) (s'.runReply count progress) := by
  have hticks := ticksReply_alike hR hpc count.toNat h
  rw [runReply, runReply]
  split
  · cases ProgressBar.forTicks count none with
    | ok bar => exact hticks.map _
    | error e => exact ⟨h, rfl, rfl⟩
  · exact hticks.map _

theorem reply_alike (hinitial : ∀ rng, R (initial g capacity rng) (initial g capacity rng))
    (h : R s s') (seed : Int) (c : Command) :
    Reply.Alike R (s.reply seed c) (s'.reply seed c) := by
  cases c with
  | loadRom rom => exact (becoming_loadRom_alike hR h rom _).map _
  | loadRomFile files name => exact (becoming_loadRomFile_alike hR h files name _).map _
  | updateKeys keys => exact (becoming_updateKeys_alike hR h keys _).map _
  | tick => exact (tickReply_alike hR hpc h).map _
  | run count progress => exact (runReply_alike hR hpc h count progress).map _
  | reset => exact ⟨hinitial _, rfl, rfl⟩
  | setLevel level => exact ⟨h, rfl, rfl⟩

end State

/-! ## States that differ in the sound timer -/

namespace State

/-- That two states differ in the sound timer at most. -/
def SameButSound (s s' : State g capacity) : Prop := ∃ b, s' = s.withTimer b .sound

theorem effect_withTimer_sound (s : State g capacity) (b : Byte) (o : Opcode)
    (operation : Operation) :
    (s.effect o operation).SameButSound ((s.withTimer b .sound).effect o operation) := by
  cases operation with
  | setSound => exact ⟨s.register o.n2, rfl⟩
  | waitKey =>
    refine ⟨b, ?_⟩
    show (s.besides s.rng s.screen s.delayTimer b).waitKey o.n2 = _
    rw [waitKey_besides, effect, waitKey_eq]
    rfl
  | load =>
    refine ⟨b, ?_⟩
    rw [effect, effect]
    rfl
  | _ => exact ⟨b, rfl⟩

theorem keptInStep_sameButSound : KeptInStep (@SameButSound g capacity) fun _ ↦ False where
  okTick := by
    rintro s _ t operation ⟨b, rfl⟩ hs
    refine ⟨_, hs.besides s.rng s.screen s.delayTimer b, rfl, fun _ ↦ ?_⟩
    -- the timer has been counted when the operation takes effect
    obtain ⟨b', heffect⟩ :=
      s.tickTimers.effect_withTimer_sound (BitVec.ofNat 8 (b.toNat - 1)) s.opcode operation
    refine ⟨b', ?_⟩
    rw [hs.eq_next]
    exact next_besides _ _ _ _ heffect
  errorTick := by
    rintro s _ e ⟨b, rfl⟩ he
    exact ⟨(s.stepFailure?_withTimer b .sound).trans he, rfl, _, rfl⟩
  rom := by
    rintro s _ ⟨b, rfl⟩ rom
    exact ⟨b, rfl⟩
  keys := by
    rintro s _ ⟨b, rfl⟩ keys
    exact ⟨b, rfl⟩

end State

/-! ## Sessions -/

namespace Machine

theorem obey_withTimer_sound (m : Machine g capacity) (b : Byte) (c : Command) :
    ((m.withTimer b .sound).obey c).result = (m.obey c).result ∧
    ((m.withTimer b .sound).obey c).records = (m.obey c).records ∧
    ∃ b', ((m.withTimer b .sound).obey c).machine = (m.obey c).machine.withTimer b' .sound := by
  have hpc {s s' : State g capacity} : s.SameButSound s' → s'.pc = s.pc := by
    rintro ⟨b, rfl⟩
    rfl
  have hlevelled : (m.withTimer b .sound).levelled c = (m.levelled c).withTimer b .sound := by
    cases c <;> rfl
  obtain ⟨⟨b', hstate⟩, hresult, hentries⟩ :
      Reply.Alike State.SameButSound (m.state.reply m.seed c)
        ((m.withTimer b .sound).state.reply (m.withTimer b .sound).seed c) :=
    State.reply_alike State.keptInStep_sameButSound hpc (fun _ ↦ ⟨0, rfl⟩) ⟨b, rfl⟩ m.seed c
  rw [obey_eq_toldBy, obey_eq_toldBy, hlevelled]
  refine ⟨hresult, ?_, b', ?_⟩
  · rw [Reply.toldBy, Reply.toldBy, hentries]
    rfl
  · rw [Reply.toldBy, Reply.toldBy, hstate, hentries]
    rfl

/-- **The sound timer is never read.** Two machines that differ in their sound timers at most, told
the same, give the same answers and log the same records, and after each command they differ in
their sound timers at most. -/
theorem sound_timer_unread (m : Machine g capacity) (b : Byte) (commands : List Command) :
    List.Forall₂
      (fun o o' ↦ o'.result = o.result ∧ o'.records = o.records ∧
        ∃ b', o'.machine = o.machine.withTimer b' .sound)
      (m.outcomes commands) ((m.withTimer b .sound).outcomes commands) := by
  induction commands generalizing m b with
  | nil => exact .nil
  | cons c commands ih =>
    obtain ⟨hresult, hrecords, b', hmachine⟩ := m.obey_withTimer_sound b c
    rw [outcomes, outcomes]
    refine .cons ⟨hresult, hrecords, b', hmachine⟩ ?_
    rw [hmachine]
    exact ih _ b'

end Machine

end ChipEight
