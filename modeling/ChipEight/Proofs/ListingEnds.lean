import ChipEight.Proofs.Listings

/-!
# Listings and the ends of memory

A listing may be asked for from any address on. This file tells how it turns out, for addresses on
both sides of memory and memories of any size, the empty one included.

The two ends are not treated alike. Every address is checked against the end of memory, and a word
that reaches beyond it is reported. Nothing is checked at the beginning: an address below zero is
counted from the end, so a listing that starts there shows the last bytes of memory and goes on with
the first, and only an address further below zero than memory is long is refused, as a place that
does not exist. `Listing.TurnsOut` lists these ways. From zero on the first two are left, and a
listing shows the words that stand at its addresses or reports where memory ends.
-/

namespace ChipEight

namespace Listing

/-- Where the byte of an address stands; an address below zero is counted from the end. -/
def placeOf (size : Nat) (a : Int) : Nat := (if a < 0 then a + size else a).toNat

/-- Whether both bytes from an address on stand somewhere in a memory of the given size. -/
def Readable (size : Nat) (a : Int) : Prop := -size ≤ a ∧ a + 1 < size

/-- The line of an address whose two bytes are read where they stand. -/
def lineAt (bytes : Array Byte) (a : Int) : Line :=
  let o := Opcode.ofBytes (bytes[placeOf bytes.size a]?.getD 0)
    (bytes[placeOf bytes.size (a + 1)]?.getD 0)
  { address := a, word := o.value, text := o.text }

/-- How the listing of a number of words turns out. -/
inductive TurnsOut (bytes : Array Byte) (outside : Int → IndexError) (n : Nat) (start : Int) :
    Except Failure (List Line) → Prop
  /-- All of the words can be read. -/
  | whole (h : ∀ k < n, Readable bytes.size (start + 2 * k)) :
    TurnsOut bytes outside n start
      (.ok ((List.range n).map fun k : Nat ↦ lineAt bytes (start + 2 * k)))
  /-- Some words can be read, and the next one reaches beyond the end of memory. -/
  | beyond {k : Nat} (hk : k < n) (h : ∀ j < k, Readable bytes.size (start + 2 * j))
    (hend : bytes.size ≤ start + 2 * k + 1) :
    TurnsOut bytes outside n start (.error (.fault (.memoryAccess (start + 2 * k) 2)))
  /-- The first word lies further below zero than memory is long. -/
  | before (hn : 0 < n) (hend : start + 1 < bytes.size) (hstart : start < -bytes.size) :
    TurnsOut bytes outside n start (.error (.index (outside start)))

variable {bytes : Array Byte} {outside : Int → IndexError}

/-! ## One line -/

theorem byteAt_of_le {a : Int} (h : -bytes.size ≤ a) :
    byteAt bytes outside a = .ok (bytes[placeOf bytes.size a]?.getD 0) := by
  have hplace : ¬(if a < 0 then a + bytes.size else a) < 0 := by
    split <;> omega
  rw [byteAt, placeOf]
  exact if_neg hplace

theorem byteAt_of_lt {a : Int} (h : a < -bytes.size) :
    byteAt bytes outside a = .error (.index (outside a)) := by
  have hplace : (if a < 0 then a + bytes.size else a) < 0 := by
    rw [if_pos (by omega)]
    omega
  rw [byteAt]
  exact if_pos hplace

theorem line_of_readable {a : Int} (h : Readable bytes.size a) :
    line bytes outside a = .ok (lineAt bytes a) := by
  obtain ⟨hlow, hhigh⟩ := h
  rw [line, if_neg (by omega), byteAt_of_le hlow, byteAt_of_le (by omega)]
  rfl

theorem line_of_before {a : Int} (hend : a + 1 < bytes.size) (h : a < -bytes.size) :
    line bytes outside a = .error (.index (outside a)) := by
  rw [line, if_neg (by omega), byteAt_of_lt h]
  rfl

/-! ## All lines -/

/-- **How listings turn out.** The first word that cannot be read decides. If it lies below the
beginning it is the first of all, because addresses only go up. -/
theorem lines_turnsOut (bytes : Array Byte) (outside : Int → IndexError) (n : Nat) (start : Int) :
    TurnsOut bytes outside n start (lines bytes outside n start) := by
  induction n generalizing start with
  | zero => exact .whole fun k hk ↦ absurd hk (Nat.not_lt_zero k)
  | succ n ih =>
    have hzero : start + 2 * (0 : Nat) = start := by omega
    have hnext (k : Nat) : start + 2 + 2 * k = start + 2 * (k + 1 : Nat) := by omega
    rw [lines]
    by_cases hend : bytes.size ≤ start + 1
    · rw [line_of_le hend]
      have hout : TurnsOut bytes outside (n + 1) start
          (.error (.fault (.memoryAccess (start + 2 * (0 : Nat)) 2))) :=
        .beyond (Nat.succ_pos n) (fun j hj ↦ absurd hj (Nat.not_lt_zero j)) (hzero.symm ▸ hend)
      rwa [hzero] at hout
    by_cases hstart : start < -bytes.size
    · rw [line_of_before (by omega) hstart]
      exact .before (Nat.succ_pos n) (by omega) hstart
    have hfirst : Readable bytes.size start := ⟨by omega, by omega⟩
    rw [line_of_readable hfirst]
    -- with the first word there, the words from the next one on decide
    have hreadable {m : Nat} (h : ∀ k < m, Readable bytes.size (start + 2 + 2 * k)) :
        ∀ k < m + 1, Readable bytes.size (start + 2 * k) := by
      intro k hk
      cases k with
      | zero => rwa [hzero]
      | succ k =>
        rw [← hnext]
        exact h k (Nat.lt_of_succ_lt_succ hk)
    have hrest := ih (start + 2)
    generalize lines bytes outside n (start + 2) = rest at hrest
    cases hrest with
    | whole h =>
      have hlines : lineAt bytes start ::
          (List.range n).map (fun k : Nat ↦ lineAt bytes (start + 2 + 2 * k)) =
            (List.range (n + 1)).map fun k : Nat ↦ lineAt bytes (start + 2 * k) := by
        rw [List.range_succ_eq_map, List.map_cons, List.map_map, hzero]
        congr 2
        funext k
        rw [hnext]
        rfl
      show TurnsOut bytes outside (n + 1) start (.ok (_ :: _))
      rw [hlines]
      exact .whole (hreadable h)
    | @beyond k hk h hend =>
      rw [hnext] at hend ⊢
      exact .beyond (Nat.succ_lt_succ hk) (hreadable h) hend
    | before hn hend' hstart' => omega

end Listing

/-! ## Listings from zero on -/

/-- That a line shows the word of the two bytes that stand at its address. -/
structure Line.ReadFrom (l : Line) (bytes : List Byte) : Prop where
  /-- The address is not below zero. -/
  address_nonneg : 0 ≤ l.address
  /-- The second byte still lies in memory. -/
  address_lt : l.address + 1 < bytes.length
  /-- The word is made of both bytes, the high one first. -/
  word_eq : ∃ high low, bytes[l.address.toNat]? = some high ∧
    bytes[l.address.toNat + 1]? = some low ∧ l.word = 256 * high.toNat + low.toNat

namespace Listing

variable {bytes : Array Byte} {outside : Int → IndexError}

theorem readFrom_lineAt {a : Int} (ha : 0 ≤ a) (h : Readable bytes.size a) :
    (lineAt bytes a).ReadFrom bytes.toList where
  address_nonneg := ha
  address_lt := h.2
  word_eq := by
    obtain ⟨i, rfl⟩ := Int.eq_ofNat_of_zero_le ha
    have hnext : i + 1 < bytes.size := by
      have := h.2
      omega
    have hlow : i < bytes.size := Nat.lt_of_succ_lt hnext
    -- a place that is not negative is counted from the start
    have hplace (j : Nat) : placeOf bytes.size j = j := by
      rw [placeOf, if_neg (by omega), Int.toNat_natCast]
    refine ⟨bytes[i], bytes[i + 1], ?_, ?_, ?_⟩
    · show bytes.toList[i]? = _
      rw [Array.getElem?_toList, Array.getElem?_eq_getElem hlow]
    · show bytes.toList[i + 1]? = _
      rw [Array.getElem?_toList, Array.getElem?_eq_getElem hnext]
    · show (Opcode.ofBytes (bytes[placeOf bytes.size (i : Int)]?.getD 0)
        (bytes[placeOf bytes.size ((i + 1 : Nat) : Int)]?.getD 0)).value = _
      rw [hplace, hplace, Array.getElem?_eq_getElem hlow, Array.getElem?_eq_getElem hnext,
        Opcode.value_ofBytes]
      rfl

theorem TurnsOut.of_nonneg {n : Nat} {start : Int} {r : Except Failure (List Line)}
    (h : TurnsOut bytes outside n start r) (hstart : 0 ≤ start) :
    (∃ ls, r = .ok ls ∧ ∀ l ∈ ls, l.ReadFrom bytes.toList) ∨
      ∃ a : Int, bytes.size ≤ a + 1 ∧ r = .error (.fault (.memoryAccess a 2)) := by
  cases h with
  | whole h =>
    refine .inl ⟨_, rfl, ?_⟩
    intro l hl
    obtain ⟨k, hk, rfl⟩ := List.mem_map.mp hl
    exact readFrom_lineAt (by omega) (h k (List.mem_range.mp hk))
  | beyond hk h hend => exact .inr ⟨_, hend, rfl⟩
  | before hn hend hbefore => omega

end Listing

/-- **What a listing reads.** Every listing turns out in one of the three ways, and for a listing
that starts from zero on there are two: it shows the words that stand at its addresses, all of them
inside memory, or it reports an address at which memory ends. This is so for the bytes of a host and
for those of a machine. -/
theorem listing_reads_memory (bytes : List Byte) (m : Memory) (start count : Int) :
    (Listing.TurnsOut bytes.toArray Listing.outsideList count.toNat start
        (Listing.ofBytes bytes start count) ∧
      (0 ≤ start →
        (∃ ls, Listing.ofBytes bytes start count = .ok ls ∧ ∀ l ∈ ls, l.ReadFrom bytes) ∨
          ∃ a : Int, bytes.length ≤ a + 1 ∧
            Listing.ofBytes bytes start count = .error (.fault (.memoryAccess a 2)))) ∧
    Listing.TurnsOut m.toArray (Listing.outsideMemory memorySize) count.toNat start
        (m.listing start count) ∧
      (0 ≤ start →
        (∃ ls, m.listing start count = .ok ls ∧ ∀ l ∈ ls, l.ReadFrom m.toList) ∨
          ∃ a : Int, 4095 ≤ a + 1 ∧
            m.listing start count = .error (.fault (.memoryAccess a 2))) := by
  constructor
  · have hturns := Listing.lines_turnsOut bytes.toArray Listing.outsideList count.toNat start
    exact ⟨hturns, hturns.of_nonneg⟩
  · have hturns :=
      Listing.lines_turnsOut m.toArray (Listing.outsideMemory memorySize) count.toNat start
    refine ⟨hturns, fun hstart ↦ ?_⟩
    have hsize : m.toArray.size = 4095 := m.size_toArray
    obtain ⟨ls, hls, hread⟩ | ⟨a, ha, hfault⟩ := hturns.of_nonneg hstart
    · exact .inl ⟨ls, hls, hread⟩
    · exact .inr ⟨a, by omega, hfault⟩

/-- Three bytes, listed from the first on and from the second on for one word too many. -/
theorem listing_reads_memory_of_three_bytes :
    (∃ ls, Listing.ofBytes [0x12, 0x34, 0x56] 0 1 = .ok ls ∧
      ∀ l ∈ ls, l.ReadFrom [0x12, 0x34, 0x56]) ∧
    ∃ a : Int, 3 ≤ a + 1 ∧
      Listing.ofBytes [0x12, 0x34, 0x56] 1 2 = .error (.fault (.memoryAccess a 2)) := by
  constructor
  · obtain h | ⟨a, ha, hfault⟩ :=
      (listing_reads_memory [0x12, 0x34, 0x56] Memory.initial 0 1).1.2 (by decide)
    · exact h
    · cases hfault
  · obtain ⟨ls, hls, -⟩ | h :=
      (listing_reads_memory [0x12, 0x34, 0x56] Memory.initial 1 2).1.2 (by decide)
    · cases hls
    · exact h

/-- Below zero a listing shows the last word of memory, and an address before all of memory is not
reported as the end of memory is. -/
theorem listing_from_other_end :
    (∃ ls, Listing.ofBytes [0x12, 0x34] (-2) 1 = .ok ls ∧
      ∃ l ∈ ls, l.address < 0 ∧ l.word = 0x1234) ∧
    Listing.ofBytes [0x12, 0x34] (-3) 1 = .error (.index .list) :=
  ⟨⟨_, rfl, _, List.mem_cons_self, by decide, by decide⟩, rfl⟩

end ChipEight
