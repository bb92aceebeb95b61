import ChipEight.Listing
import ChipEight.Proofs.AssemblyText
import ChipEight.Proofs.Cycle

/-!
# Listings, loading and fetching

A listing, the cycle of the machine and its trace read memory separately: each has its own check of
the end of memory and puts the two bytes of a word together itself. This file shows that they read
the same, and that what they read of a program that was loaded is the program.

## From one line to the listing

One line is read or fails by its address alone, `Listing.line_of_lt` and `Listing.line_of_le`. A
listing of `a + b` lines is one of `a` and, from where that ends, one of `b`, `Listing.lines_add`.
Adding one line at the end at a time, every listing is either whole or stops at the first address
where no word has room, `Listing.lines_cases`, and everything else is read off these two ways.
-/

namespace ChipEight

def Opcode.line (o : Opcode) (a : Nat) : Line where
  address := a
  word := o.value
  text := o.text

/-! ## Listings -/

namespace Listing

def opcodeAt (bytes : Array Byte) (a : Nat) : Opcode :=
  .ofBytes (bytes[a]?.getD 0) (bytes[a + 1]?.getD 0)

/-- The word so many words behind an address lies inside. -/
def Fits (bytes : Array Byte) (a k : Nat) : Prop := a + 2 * k + 1 < bytes.size

variable {bytes : Array Byte} {outside : Int → IndexError}

theorem byteAt_natCast (a : Nat) : byteAt bytes outside a = .ok (bytes[a]?.getD 0) := by
  have ha : ¬(a : Int) < 0 := by omega
  simp only [byteAt, if_neg ha, Int.toNat_natCast]

theorem line_of_lt {a : Nat} (h : a + 1 < bytes.size) :
    line bytes outside a = .ok ((opcodeAt bytes a).line a) := by
  have hnext : (a : Int) + 1 = (a + 1 : Nat) := rfl
  rw [line, if_neg (by omega), byteAt_natCast, hnext, byteAt_natCast]
  rfl

theorem line_of_le {a : Int} (h : bytes.size ≤ a + 1) :
    line bytes outside a = .error (.fault (.memoryAccess a 2)) := by
  rw [line, if_pos h]

/-- **A listing in two parts.** This holds for addresses below zero and for listings that fail, too:
the first part to fail is the one that tells. -/
theorem lines_add (a b : Nat) (start : Int) :
    lines bytes outside (a + b) start = do
      let first ← lines bytes outside a start
      let rest ← lines bytes outside b (start + 2 * a)
      return first ++ rest := by
  induction a generalizing start with
  | zero =>
    rw [Nat.zero_add, Int.natCast_zero, Int.mul_zero, Int.add_zero, lines]
    cases lines bytes outside b start <;> rfl
  | succ a ih =>
    have hstart : start + 2 + 2 * (a : Int) = start + 2 * (a + 1 : Nat) := by omega
    rw [Nat.succ_add, lines, lines, ih, hstart]
    cases line bytes outside start with
    | error e => rfl
    | ok l =>
      cases lines bytes outside a (start + 2) with
      | error e => rfl
      | ok ls => cases lines bytes outside b (start + 2 * (a + 1 : Nat)) <;> rfl

theorem lines_concat {n a : Nat} {ls : List Line} (h : lines bytes outside n a = .ok ls) :
    lines bytes outside (n + 1) a =
      (line bytes outside (a + 2 * n : Nat)).map fun l ↦ ls ++ [l] := by
  rw [lines_add, h]
  show (do let rest ← lines bytes outside 1 (a + 2 * n : Nat); return ls ++ rest) = _
  rw [lines]
  cases line bytes outside (a + 2 * n : Nat) <;> rfl

/-- **What a listing gives.** Either every word has room, and the lines are those of the words, or
there is a first address where none has, and nothing but that is told. -/
theorem lines_cases (bytes : Array Byte) (outside : Int → IndexError) (n a : Nat) :
    ((∀ k < n, Fits bytes a k) ∧ lines bytes outside n a =
      .ok ((List.range n).map fun k ↦ (opcodeAt bytes (a + 2 * k)).line (a + 2 * k))) ∨
    ∃ k < n, (∀ j < k, Fits bytes a j) ∧ ¬Fits bytes a k ∧
      lines bytes outside n a = .error (.fault (.memoryAccess (a + 2 * k : Nat) 2)) := by
  induction n with
  | zero => exact .inl ⟨fun k hk ↦ absurd hk (Nat.not_lt_zero k), rfl⟩
  | succ n ih =>
    obtain ⟨hfits, hlines⟩ | ⟨k, hk, hfits, hout, hlines⟩ := ih
    · -- the line that is added is looked at after all the others
      by_cases hn : Fits bytes a n
      · left
        refine ⟨Nat.forall_lt_succ_right.mpr ⟨hfits, hn⟩, ?_⟩
        rw [lines_concat hlines, line_of_lt hn, List.range_succ, List.map_append]
        rfl
      · right
        refine ⟨n, Nat.lt_succ_self n, hfits, hn, ?_⟩
        rw [lines_concat hlines, line_of_le (Int.ofNat_le.mpr (Nat.not_lt.mp hn))]
        rfl
    · right
      refine ⟨k, Nat.lt_succ_of_lt hk, hfits, hout, ?_⟩
      rw [lines_add, hlines]
      rfl

theorem lines_of_fits {n a : Nat} (h : ∀ k < n, Fits bytes a k) :
    lines bytes outside n a =
      .ok ((List.range n).map fun k ↦ (opcodeAt bytes (a + 2 * k)).line (a + 2 * k)) := by
  obtain ⟨-, hlines⟩ | ⟨k, hk, -, hout, -⟩ := lines_cases bytes outside n a
  · exact hlines
  · exact absurd (h k hk) hout

theorem lines_eq_error_iff {n a : Nat} {e : Failure} :
    lines bytes outside n a = .error e ↔
      ∃ k < n, (∀ j < k, Fits bytes a j) ∧ ¬Fits bytes a k ∧
        e = .fault (.memoryAccess (a + 2 * k : Nat) 2) := by
  obtain ⟨hfits, hlines⟩ | ⟨k, hk, hfits, hout, hlines⟩ := lines_cases bytes outside n a
  · rw [hlines]
    constructor
    · intro h
      cases h
    · rintro ⟨k, hk, -, hout, -⟩
      exact absurd (hfits k hk) hout
  · rw [hlines]
    constructor
    · intro h
      exact ⟨k, hk, hfits, hout, (Except.error.inj h).symm⟩
    · rintro ⟨k', -, hfits', hout', rfl⟩
      -- of two first addresses neither comes before the other
      obtain hlt | rfl | hlt := Nat.lt_trichotomy k k'
      · exact absurd (hfits' k hlt) hout
      · rfl
      · exact absurd (hfits k' hlt) hout'

theorem lines_add_eq_ok_iff {a b : Nat} {start : Int} {ls : List Line} :
    lines bytes outside (a + b) start = .ok ls ↔
      ∃ first rest, lines bytes outside a start = .ok first ∧
        lines bytes outside b (start + 2 * a) = .ok rest ∧ ls = first ++ rest := by
  rw [lines_add]
  cases lines bytes outside a start with
  | error e => simp [bind, Except.bind]
  | ok first =>
    cases lines bytes outside b (start + 2 * a) with
    | error e => simp [bind, Except.bind]
    | ok rest => simp [bind, Except.bind, pure, Except.pure, eq_comm]

end Listing

/-! ## Programs in memory -/

def bigEndian (w : Word) : List Byte := [BitVec.ofNat 8 (w.toNat / 0x100), BitVec.ofNat 8 w.toNat]

def program (ws : List Word) : List Byte := ws.flatMap bigEndian

theorem ofBytes_bigEndian (w : Word) :
    Opcode.ofBytes (BitVec.ofNat 8 (w.toNat / 0x100)) (BitVec.ofNat 8 w.toNat) = ⟨w⟩ := by
  have hw := w.isLt
  have hvalue : (Opcode.ofBytes (BitVec.ofNat 8 (w.toNat / 0x100)) (BitVec.ofNat 8 w.toNat)).value =
      w.toNat := by
    rw [Opcode.value_ofBytes, BitVec.toNat_ofNat, BitVec.toNat_ofNat]
    omega
  exact congrArg Opcode.mk (BitVec.eq_of_toNat_eq hvalue)

theorem length_program (ws : List Word) : (program ws).length = 2 * ws.length := by
  induction ws with
  | nil => rfl
  | cons w ws ih =>
    rw [program, List.flatMap_cons, List.length_append, ← program, ih, List.length_cons]
    show 2 + 2 * ws.length = _
    omega

theorem getElem?_program {ws : List Word} {k : Nat} (hk : k < ws.length) :
    (program ws)[2 * k]? = some (BitVec.ofNat 8 (ws[k].toNat / 0x100)) ∧
      (program ws)[2 * k + 1]? = some (BitVec.ofNat 8 ws[k].toNat) := by
  induction ws generalizing k with
  | nil => cases hk
  | cons w ws ih =>
    cases k with
    | zero => exact ⟨rfl, rfl⟩
    | succ k => exact ih (Nat.lt_of_succ_lt_succ hk)

namespace Memory

/-- These words stand one after the other from an address on. -/
def Holds (m : Memory) (a : Nat) (ws : List Word) : Prop :=
  ∀ (k : Nat) (hk : k < ws.length),
    Listing.Fits m.toArray a k ∧ Listing.opcodeAt m.toArray (a + 2 * k) = ⟨ws[k]⟩

theorem opcodeAt_toArray (m : Memory) (a : Nat) :
    Listing.opcodeAt m.toArray a = .ofBytes (m.read a) (m.read (a + 1)) := by
  rw [Listing.opcodeAt, Vector.getElem?_toArray, Vector.getElem?_toArray]
  rfl

theorem holds_write (m : Memory) {a : Nat} {ws : List Word} (h : a + 2 * ws.length ≤ memorySize) :
    (m.write a (program ws)).Holds a ws := by
  intro k hk
  obtain ⟨hhigh, hlow⟩ := getElem?_program hk
  constructor
  · show a + 2 * k + 1 < (m.write a (program ws)).toArray.size
    rw [Vector.size_toArray]
    omega
  · rw [opcodeAt_toArray, read_write m hhigh (by omega), Nat.add_assoc,
      read_write m hlow (by omega), ofBytes_bigEndian]

theorem Holds.listing_eq {m : Memory} {a : Nat} {ws : List Word} (h : m.Holds a ws) :
    m.listing a ws.length =
      .ok (ws.mapIdx fun k w ↦ (Opcode.mk w).line (a + 2 * k)) := by
  rw [listing, Int.toNat_natCast, Listing.lines_of_fits fun k hk ↦ (h k hk).1]
  congr 1
  apply List.ext_getElem
  · simp
  · intro k hk hk'
    have hlt : k < ws.length := by simpa using hk'
    simp [(h k hlt).2]

end Memory

namespace State

variable {g : Geometry} {capacity : Nat}

theorem opcode_eq (s : State g capacity) :
    s.opcode = Listing.opcodeAt s.memory.toArray s.pc.toNat := by
  rw [opcode, Memory.opcodeAt_toArray]

/-- **Listing and fetching agree.** At every address both give the same word or fail alike. -/
theorem fetch_and_listing (s : State g capacity) :
    (s.fetch = .ok s.opcode ∧
      s.memory.listing s.pc.toNat 1 = .ok [s.opcode.line s.pc.toNat]) ∨
    (s.fetch = .error (.memoryAccess s.pc.toNat 2) ∧
      s.memory.listing s.pc.toNat 1 = .error (.fault (.memoryAccess s.pc.toNat 2))) := by
  have hone : s.memory.listing s.pc.toNat 1 = Listing.lines s.memory.toArray
      (Listing.outsideMemory memorySize) (0 + 1) s.pc.toNat := rfl
  by_cases hpc : s.pc.toNat + 2 ≤ memorySize
  · left
    refine ⟨fetch_eq_ok_iff.mpr hpc, ?_⟩
    have hlt : s.pc.toNat + 1 < s.memory.toArray.size := by
      rw [Vector.size_toArray]
      omega
    rw [hone, Listing.lines_concat rfl, Nat.mul_zero, Nat.add_zero, Listing.line_of_lt hlt,
      opcode_eq]
    rfl
  · right
    constructor
    · rw [fetch_eq, (Memory.outside?_eq_some_iff (k := 2)).mpr ⟨⟨by decide, by omega⟩, rfl⟩]
      rfl
    · have hle : (s.memory.toArray.size : Int) ≤ s.pc.toNat + 1 := by
        rw [Vector.size_toArray]
        omega
      rw [hone, Listing.lines_concat rfl, Nat.mul_zero, Nat.add_zero, Listing.line_of_le hle]
      rfl

theorem fetch_of_holds {s : State g capacity} {a : Nat} {ws : List Word}
    (h : s.memory.Holds a ws) {k : Nat} (hk : k < ws.length) (hpc : s.pc.toNat = a + 2 * k) :
    s.fetch = .ok ⟨ws[k]⟩ := by
  obtain ⟨hfits, hword⟩ := h k hk
  have hlt : a + 2 * k + 1 < s.memory.toArray.size := hfits
  rw [Vector.size_toArray] at hlt
  rw [fetch_eq_ok_iff.mpr (by omega), opcode_eq, hpc, hword]

end State

/-! ## Texts and traces -/

theorem text_of_decode {w : Word} {i : Instruction} (h : decode w.toNat = .ok i) :
    (Opcode.mk w).text = i.assembly := by
  rw [Opcode.text, decode_toNat_eq_ok_iff.mp h]

theorem data_append (rest : String) : "DW 0x" ++ rest = "DW " ++ ("0x" ++ rest) := by
  rw [← String.append_assoc]
  rfl

/-- A word is shown as data, with its four digits, exactly if it is no instruction. -/
theorem text_eq_data_iff (w : Word) :
    (∃ digits : List Char, digits.length = 4 ∧ (∀ c ∈ digits, c ∈ Numeral.capitals) ∧
      Numeral.value 16 digits = w.toNat ∧ (Opcode.mk w).text = "DW 0x" ++ String.ofList digits) ↔
      ∀ i, decode w.toNat ≠ .ok i := by
  constructor
  · rintro ⟨digits, -, -, -, htext⟩ i hi
    rw [text_of_decode hi, data_append] at htext
    exact i.assembly_ne_data _ htext
  · intro h
    have hlength := Numeral.length_hexDigits_le w.isLt
    refine ⟨Numeral.zeroPadded 4 (Numeral.hexDigits w.toNat), ?_,
      fun c ↦ Numeral.mem_capitals_of_mem_zeroPadded, ?_, ?_⟩
    · rw [Numeral.length_zeroPadded, Nat.max_eq_left hlength]
    · rw [Numeral.value_zeroPadded, Numeral.value_hexDigits]
    · cases hdecode : (Opcode.mk w).decode with
      | ok i => exact absurd (decode_toNat_eq_ok_iff.mpr hdecode) (h i)
      | error f =>
        rw [Opcode.text, hdecode, data_append]
        rfl

def Line.trace (l : Line) : String :=
  Numeral.hexText 3 l.address ++ "  " ++ String.ofList (Numeral.hex 4 l.word) ++ "  " ++ l.text

namespace Logger

/-- What stands before the name of a logger in a record of the lowest level: a time stamp, if its
records carry any, and the level, in its colour if the logger uses colours. -/
def debugFront (l : Logger) : String :=
  (if l.timestamps then "[" ++ Seconds.text (l.clock.now - l.start) ++ "s]" else "") ++
    if l.colours then "\x1b[36m[   DEBUG]\x1b[0m" else "[   DEBUG]"

theorem log_debug (l : Logger) (message : String) :
    (l.log .debug message).2 =
      if l.level = .debug then [l.debugFront ++ "[" ++ l.name ++ "] " ++ message ++ "\n"]
      else [] := by
  have hlets : l.lets .debug = decide (l.level = .debug) := by
    rw [lets]
    cases l.level <;> rfl
  have htag : l.tag .debug =
      if l.colours then "\x1b[36m[   DEBUG]\x1b[0m" else "[   DEBUG]" := by
    rw [tag]
    cases l.colours <;> rfl
  rw [log, hlets, debugFront, ← htag]
  by_cases hlevel : l.level = .debug
  · rw [if_pos hlevel, if_pos (decide_eq_true hlevel)]
    have hread : l.clock.read.1 = l.clock.now := by
      rw [Clock.read]
      cases l.clock.later <;> rfl
    cases l.timestamps with
    | true =>
      rw [← hread]
      rfl
    | false => rfl
  · rw [if_neg hlevel, decide_eq_false hlevel]
    rfl

end Logger

namespace Machine

variable {g : Geometry} {capacity : Nat}

theorem records_tick {m : Machine g capacity} {i : Instruction} (h : m.tick.result = .ok i) :
    m.state.memory.listing m.state.pc.toNat 1 = .ok [m.state.opcode.line m.state.pc.toNat] ∧
      (m.state.opcode.line m.state.pc.toNat).text = i.assembly ∧
      m.tick.records =
        (m.logger.log .debug (m.state.opcode.line m.state.pc.toNat).trace).2 := by
  obtain ⟨operation, t, hs, htick⟩ | ⟨f, -, htick⟩ | ⟨length, -, htick⟩ := m.tick_cases
  · rw [htick] at h
    obtain rfl := Except.ok.inj h
    have hfetch := State.fetch_eq_ok_iff.mpr hs.pc_le
    -- the listing decodes the word that the tick has executed
    have htext : (m.state.opcode.line m.state.pc.toNat).text =
        (m.state.opcode.withOperation operation).assembly := by
      simp only [Opcode.line, Opcode.text, Opcode.decode, hs.operation?_opcode]
    refine ⟨?_, htext, ?_⟩
    · obtain ⟨-, hlisting⟩ | ⟨hfail, -⟩ := m.state.fetch_and_listing
      · exact hlisting
      · rw [hfetch] at hfail
        cases hfail
    · rw [htick, Line.trace, htext]
      rfl
  · rw [htick] at h
    cases h
  · rw [htick] at h
    cases h

end Machine

/-- **Assembling, loading, listing and fetching agree.** A program that is loaded is listed word by
word and fetched word by word. A word that is an instruction is shown as that, and only a word that
is none is shown as data. At every address listing and fetching give the same word or fail alike,
and the trace of a tick shows the line that is listed there. A listing in two parts is a listing,
and a listing fails at the first address where no word has room. -/
theorem listings_agree :
    (∀ ws : List Word, ws.length ≤ 512 → ∀ (g : Geometry) (capacity : Nat) (s : State g capacity),
      ∃ t, s.loadRom (program ws) = .ok t ∧
        t.memory.listing 0x200 ws.length =
          .ok (ws.mapIdx fun k w ↦ (Opcode.mk w).line (0x200 + 2 * k)) ∧
        ∀ (k : Nat) (hk : k < ws.length),
          { t with pc := BitVec.ofNat 16 (0x200 + 2 * k) }.fetch = .ok ⟨ws[k]⟩) ∧
    (∀ w : Word,
      (∀ i, decode w.toNat = .ok i → (Opcode.mk w).text = i.assembly) ∧
      ((∃ digits : List Char, digits.length = 4 ∧ (∀ c ∈ digits, c ∈ Numeral.capitals) ∧
        Numeral.value 16 digits = w.toNat ∧
        (Opcode.mk w).text = "DW 0x" ++ String.ofList digits) ↔ ∀ i, decode w.toNat ≠ .ok i)) ∧
    (∀ (g : Geometry) (capacity : Nat) (s : State g capacity),
      (∃ o, s.fetch = .ok o ∧ s.memory.listing s.pc.toNat 1 = .ok [o.line s.pc.toNat]) ∨
      (s.fetch = .error (.memoryAccess s.pc.toNat 2) ∧
        s.memory.listing s.pc.toNat 1 = .error (.fault (.memoryAccess s.pc.toNat 2)))) ∧
    (∀ (g : Geometry) (capacity : Nat) (m : Machine g capacity) (i : Instruction),
      m.tick.result = .ok i → ∃ l, m.state.memory.listing m.state.pc.toNat 1 = .ok [l] ∧
        l.text = i.assembly ∧
        m.tick.records =
          if m.logger.level = .debug then
            [m.logger.debugFront ++ "[" ++ m.logger.name ++ "] " ++ l.trace ++ "\n"]
          else []) ∧
    (∀ (bytes : Array Byte) (outside : Int → IndexError) (start : Int), 0 ≤ start →
      (∀ (a b : Nat) (ls : List Line), Listing.lines bytes outside (a + b) start = .ok ls ↔
        ∃ first rest, Listing.lines bytes outside a start = .ok first ∧
          Listing.lines bytes outside b (start + 2 * a) = .ok rest ∧ ls = first ++ rest) ∧
      ∀ (n : Nat) (e : Failure), Listing.lines bytes outside n start = .error e ↔
        ∃ k < n, (∀ j < k, start + 2 * j + 1 < bytes.size) ∧ bytes.size ≤ start + 2 * k + 1 ∧
          e = .fault (.memoryAccess (start + 2 * k) 2)) := by
  refine ⟨fun ws hws g capacity s ↦ ?_, fun w ↦ ⟨fun i ↦ text_of_decode, text_eq_data_iff w⟩,
    fun g capacity s ↦ ?_, fun g capacity m i h ↦ ?_,
    fun bytes outside start hstart ↦ ⟨fun a b ls ↦ Listing.lines_add_eq_ok_iff, fun n e ↦ ?_⟩⟩
  · have hsize : ¬maxRomSize < (program ws).length := by
      rw [length_program, maxRomSize]
      omega
    have hholds : (s.memory.write programStart (program ws)).Holds 0x200 ws :=
      s.memory.holds_write (by rw [programStart, memorySize]; omega)
    refine ⟨_, if_neg hsize, hholds.listing_eq, fun k hk ↦ ?_⟩
    apply State.fetch_of_holds hholds hk
    rw [BitVec.toNat_ofNat]
    omega
  · exact s.fetch_and_listing.imp_left fun h ↦ ⟨_, h⟩
  · obtain ⟨hlisting, htext, hrecords⟩ := Machine.records_tick h
    rw [hrecords]
    exact ⟨_, hlisting, htext, m.logger.log_debug _⟩
  · obtain ⟨a, rfl⟩ := Int.eq_ofNat_of_zero_le hstart
    rw [Listing.lines_eq_error_iff]
    have hfits : ∀ k, Listing.Fits bytes a k ↔ (a : Int) + 2 * k + 1 < bytes.size := fun k ↦ by
      rw [Listing.Fits]
      omega
    simp only [hfits, Int.not_lt, Int.natCast_add, Int.natCast_mul, Int.cast_ofNat_Int]

/-- A program of an instruction and a word that is none. -/
theorem listings_agree_of_instruction_and_data :
    let geometry : Geometry := ⟨8, 32, by decide, by decide⟩
    let ws : List Word := [0x00E0, 0xFFFF]
    ws.length ≤ 512 ∧ ∃ t, (State.initial geometry 16 (Key.ofSeed 0)).loadRom (program ws) = .ok t ∧
      t.memory.listing 0x200 2 = .ok
        [{ address := 0x200, word := 0x00E0, text := "CLS" },
          { address := 0x202, word := 0xFFFF, text := "DW 0xFFFF" }] ∧
      { t with pc := 0x202 }.fetch = .ok ⟨0xFFFF⟩ := by
  intro geometry ws
  have hws : ws.length ≤ 512 := by decide
  obtain ⟨t, hload, hlisting, hfetch⟩ :=
    listings_agree.1 ws hws geometry 16 (State.initial geometry 16 (Key.ofSeed 0))
  exact ⟨hws, t, hload, hlisting.trans rfl, hfetch 1 (by decide)⟩

end ChipEight
