import ChipEight.Execute
import ChipEight.Proofs.Assembling
import ChipEight.Proofs.Numerals
import Mathlib.Data.List.Nodup

/-!
# What an assembly text tells

Two instructions with the same assembly text do the same thing. They need not be the same: a shift
has a second register that is neither written out nor looked at, and no text shows the word that an
instruction came from. This file shows that the text tells the operation and every operand that
has a slot, and that executing reads nothing else.

## Reading a text

A text is read word by word, the words being what stands between blanks and commas. No numeral and
no register name has a separator in it, so the words of a text are those of its template, with the
slots filled. The first character of a word tells a register from a number and both from a name,
whatever the operands are. What is left of a text when only that is kept is its *outline*, and no
two operations have the same, `Operation.outline_injective`. Under one outline the words of two
equal texts agree slot by slot.

A word that is no instruction is shown behind a name that no operation has.
-/

namespace ChipEight

/-! ## Words of a text -/

/-- The characters that stand between words. -/
def isSeparator : Char → Bool
  | ' ' | ',' => true
  | _ => false

/-- A place in a template: a character, or a slot for an operand. -/
inductive Symbol where
  /-- A character that stands as it is. -/
  | char (c : Char)
  /-- A slot. -/
  | slot (p : Piece)
deriving DecidableEq, Repr

def Symbol.isSeparator : Symbol → Bool
  | .char c => ChipEight.isSeparator c
  | .slot _ => false

def Piece.symbols : Piece → List Symbol
  | .literal text => text.toList.map .char
  | p => [.slot p]

/-- The piece that a word of a template is. -/
def Piece.ofSymbols : List Symbol → Piece
  | [.slot p] => p
  | symbols => .literal (String.ofList (symbols.filterMap fun
      | .char c => some c
      | .slot _ => none))

/-- The words of a template, each either a name or a slot. -/
def Operation.entries (o : Operation) : List Piece :=
  ((o.template.flatMap Piece.symbols).splitOnP Symbol.isSeparator).map Piece.ofSymbols

/-- What stands at a place of a template. -/
def Instruction.fill (i : Instruction) : Symbol → List Char
  | .char c => [c]
  | .slot p => i.slot p

section Splitting

variable {α β : Type} {p : α → Bool} {q : β → Bool} {f : α → List β}

theorem splitOnP_append {w : List α} (hw : ∀ a ∈ w, p a = false) (rest : List α) :
    (w ++ rest).splitOnP p = (rest.splitOnP p).modifyHead (w ++ ·) := by
  induction w with
  | nil =>
    rw [List.nil_append]
    cases rest.splitOnP p <;> rfl
  | cons a w ih =>
    obtain ⟨ha, hw⟩ := List.forall_mem_cons.mp hw
    rw [List.cons_append, List.splitOnP_cons_eq_if_modifyHead, ha, ih hw,
      List.modifyHead_modifyHead]
    rfl

/-- Splitting and filling may change places when separators are filled by separators and everything
else is filled without. -/
theorem splitOnP_flatMap {l : List α} (hsep : ∀ a ∈ l, p a = true → ∃ b, q b = true ∧ f a = [b])
    (hword : ∀ a ∈ l, p a = false → ∀ b ∈ f a, q b = false) :
    (l.flatMap f).splitOnP q = (l.splitOnP p).map (List.flatMap f) := by
  induction l with
  | nil => rfl
  | cons a l ih =>
    obtain ⟨hsepa, hsep⟩ := List.forall_mem_cons.mp hsep
    obtain ⟨hworda, hword⟩ := List.forall_mem_cons.mp hword
    rw [List.flatMap_cons, List.splitOnP_cons_eq_if_modifyHead]
    cases ha : p a with
    | true =>
      obtain ⟨b, hb, hfa⟩ := hsepa ha
      rw [hfa, List.singleton_append, List.splitOnP_cons_eq_if_modifyHead, hb, ih hsep hword]
      rfl
    | false =>
      rw [splitOnP_append (hworda ha), ih hsep hword]
      cases l.splitOnP p <;> rfl

end Splitting

theorem Operation.splitOnP_template (o : Operation) :
    (o.template.flatMap Piece.symbols).splitOnP Symbol.isSeparator =
      o.entries.map Piece.symbols := by
  cases o <;> rfl

theorem not_isSeparator_of_mem_capitals : ∀ c ∈ Numeral.capitals, isSeparator c = false := by
  simp [Numeral.capitals, isSeparator]

theorem not_isSeparator_of_isDigit {c : Char} (h : c.isDigit = true) : isSeparator c = false := by
  unfold isSeparator
  split
  · exact absurd h (by decide)
  · exact absurd h (by decide)
  · rfl

namespace Instruction

variable (i : Instruction)

theorem not_isSeparator_of_mem_slot {p : Piece} {c : Char} (h : c ∈ i.slot p) :
    (∃ text, p = .literal text) ∨ isSeparator c = false := by
  cases p with
  | literal text => exact .inl ⟨text, rfl⟩
  | x | y =>
    right
    obtain rfl | h := List.mem_cons.mp h
    · rfl
    · exact not_isSeparator_of_mem_capitals c (Numeral.mem_capitals_of_mem_hexDigits h)
  | n =>
    right
    obtain rfl | h := Numeral.mem_decimal h
    · rfl
    · exact not_isSeparator_of_isDigit h
  | nn | nnn =>
    right
    obtain rfl | h := List.mem_cons.mp h
    · rfl
    obtain rfl | h := List.mem_cons.mp h
    · rfl
    obtain rfl | h := Numeral.mem_hex h
    · rfl
    · exact not_isSeparator_of_mem_capitals c h

theorem flatMap_fill_symbols (p : Piece) : p.symbols.flatMap i.fill = i.slot p := by
  cases p with
  | literal text =>
    rw [Piece.symbols, List.flatMap_map]
    exact List.flatMap_singleton' text.toList
  | x | y | n | nn | nnn => exact List.append_nil _

theorem fill_template :
    (i.operation.template.flatMap Piece.symbols).flatMap i.fill = i.assemblyChars := by
  rw [List.flatMap_assoc, assemblyChars]
  congr 1
  funext p
  exact i.flatMap_fill_symbols p

/-- The words of a text are those of its template, with the slots filled. -/
theorem splitOnP_assemblyChars :
    i.assemblyChars.splitOnP isSeparator = i.operation.entries.map i.slot := by
  have hsep : ∀ a ∈ i.operation.template.flatMap Piece.symbols, a.isSeparator = true →
      ∃ c, isSeparator c = true ∧ i.fill a = [c] := by
    intro a _ ha
    cases a with
    | char c => exact ⟨c, ha, rfl⟩
    | slot p => cases ha
  have hword : ∀ a ∈ i.operation.template.flatMap Piece.symbols, a.isSeparator = false →
      ∀ c ∈ i.fill a, isSeparator c = false := by
    intro a hmem ha c hc
    cases a with
    | char c' =>
      obtain rfl := List.mem_singleton.mp hc
      exact ha
    | slot p =>
      obtain ⟨text, rfl⟩ | hc := i.not_isSeparator_of_mem_slot hc
      · -- literal text is spelled out, so it never makes a slot
        obtain ⟨p', -, hp'⟩ := List.mem_flatMap.mp hmem
        cases p' <;> simp [Piece.symbols] at hp'
      · exact hc
  rw [← i.fill_template, splitOnP_flatMap hsep hword, Operation.splitOnP_template, List.map_map]
  exact List.map_congr_left fun p _ ↦ i.flatMap_fill_symbols p

end Instruction

/-! ## Outlines -/

/-- What the first character tells about a word. -/
inductive EntryKind where
  /-- The name of a register. -/
  | register
  /-- A number. -/
  | number
  /-- Any other name. -/
  | name (text : List Char)
deriving DecidableEq, Repr

def EntryKind.ofText : List Char → EntryKind
  | [] => .name []
  | c :: rest =>
    if c = 'V' then .register
    else if c = '-' ∨ c.isDigit = true then .number
    else .name (c :: rest)

def Piece.kind : Piece → EntryKind
  | .literal text => .ofText text.toList
  | .x | .y => .register
  | .n | .nn | .nnn => .number

/-- The outline of an operation: the kinds of the words of its texts. -/
def Operation.outline (o : Operation) : List EntryKind := o.entries.map Piece.kind

theorem Instruction.kind_slot (i : Instruction) (p : Piece) :
    EntryKind.ofText (i.slot p) = p.kind := by
  cases p with
  | literal text | x | y | nn | nnn => rfl
  | n =>
    obtain ⟨c, rest, hcons⟩ := List.exists_cons_of_ne_nil (Numeral.decimal_ne_nil i.n)
    have hc : c = '-' ∨ c.isDigit = true := Numeral.mem_decimal (hcons ▸ List.mem_cons_self)
    have hV : c ≠ 'V' := by
      rintro rfl
      exact absurd hc (by decide)
    rw [slot, hcons, EntryKind.ofText, if_neg hV, if_pos hc]
    rfl

theorem Instruction.outline_eq (i : Instruction) :
    (i.assemblyChars.splitOnP isSeparator).map EntryKind.ofText = i.operation.outline := by
  rw [i.splitOnP_assemblyChars, List.map_map]
  exact List.map_congr_left fun p _ ↦ i.kind_slot p

theorem Operation.nodup_outlines : (all.map outline).Nodup := by decide

/-- **No two operations have one outline.** -/
theorem Operation.outline_injective : Function.Injective Operation.outline := fun o o' h ↦
  List.inj_on_of_nodup_map nodup_outlines (mem_all o) (mem_all o') h

/-! ## Slots -/

theorem Instruction.registerName_injective : Function.Injective registerName := fun x y h ↦ by
  have hdigits := (List.cons.inj h).2
  apply Fin.ext
  rw [← Numeral.value_hexDigits x, hdigits, Numeral.value_hexDigits]

/-- An instruction with the operation of another one, and with those of its operands that its text
shows. -/
def Instruction.overlay (i j : Instruction) : Instruction where
  operation := i.operation
  raw := j.raw
  x := if .x ∈ i.operation.template then i.x else j.x
  y := if .y ∈ i.operation.template then i.y else j.y
  n := if .n ∈ i.operation.template then i.n else j.n
  nn := if .nn ∈ i.operation.template then i.nn else j.nn
  nnn := if .nnn ∈ i.operation.template then i.nnn else j.nnn

theorem Operation.mem_entries {o : Operation} :
    ∀ p ∈ o.template, p.symbols = [.slot p] → p ∈ o.entries := by
  cases o <;> decide

/-- **A text tells the operation and the operands that it shows.** Instructions with the same text
agree in both. -/
theorem Instruction.overlay_eq_of_assembly_eq {i j : Instruction} (h : i.assembly = j.assembly) :
    i.overlay j = j := by
  have hchars : i.assemblyChars = j.assemblyChars := String.ofList_injective h
  -- the characters outside the slots tell the operation, and the slots tell its operands
  have hop : i.operation = j.operation := by
    apply Operation.outline_injective
    rw [← i.outline_eq, ← j.outline_eq, hchars]
  have hwords : i.operation.entries.map i.slot = i.operation.entries.map j.slot := by
    rw [← i.splitOnP_assemblyChars, hchars, j.splitOnP_assemblyChars, hop]
  have hslot : ∀ p ∈ i.operation.template, p.symbols = [.slot p] → i.slot p = j.slot p :=
    fun p hp hslot ↦ List.map_inj_left.mp hwords p (Operation.mem_entries p hp hslot)
  have hx : (if .x ∈ i.operation.template then i.x else j.x) = j.x :=
    ite_eq_right_iff.mpr fun hx ↦ registerName_injective (hslot .x hx rfl)
  have hy : (if .y ∈ i.operation.template then i.y else j.y) = j.y :=
    ite_eq_right_iff.mpr fun hy ↦ registerName_injective (hslot .y hy rfl)
  have hn : (if .n ∈ i.operation.template then i.n else j.n) = j.n :=
    ite_eq_right_iff.mpr fun hn ↦ Numeral.decimal_injective (hslot .n hn rfl)
  have hnn : (if .nn ∈ i.operation.template then i.nn else j.nn) = j.nn :=
    ite_eq_right_iff.mpr fun hnn ↦
      Numeral.hex_injective 2 (List.cons.inj (List.cons.inj (hslot .nn hnn rfl)).2).2
  have hnnn : (if .nnn ∈ i.operation.template then i.nnn else j.nnn) = j.nnn :=
    ite_eq_right_iff.mpr fun hnnn ↦
      Numeral.hex_injective 3 (List.cons.inj (List.cons.inj (hslot .nnn hnnn rfl)).2).2
  rw [overlay, hx, hy, hn, hnn, hnnn, hop]

theorem Instruction.assembly_overlay (i j : Instruction) : (i.overlay j).assembly = i.assembly := by
  obtain ⟨operation, raw, x, y, n, nn, nnn⟩ := i
  cases operation <;> rfl

theorem Instruction.assembly_eq_iff {i j : Instruction} :
    i.assembly = j.assembly ↔ i.overlay j = j := by
  constructor
  · exact overlay_eq_of_assembly_eq
  · intro h
    rw [← i.assembly_overlay j, h]

theorem Instruction.assembly_ne_data (i : Instruction) (rest : String) :
    i.assembly ≠ "DW " ++ rest := by
  intro h
  have hchars : i.assemblyChars = ['D', 'W'] ++ ' ' :: rest.toList := by
    rw [← String.toList_ofList (l := i.assemblyChars), ← assembly, h, String.toList_append]
    rfl
  have hwords : i.assemblyChars.splitOnP isSeparator =
      ['D', 'W'] :: rest.toList.splitOnP isSeparator := by
    rw [hchars]
    exact List.splitOnP_append_cons_of_forall_mem (by simp [isSeparator]) ' ' rfl rest.toList
  have hhead : ∀ o ∈ Operation.all, o.outline.head? ≠ some (.name ['D', 'W']) := by decide
  apply hhead i.operation (Operation.mem_all i.operation)
  rw [← i.outline_eq, hwords]
  rfl

/-! ## What is executed -/

variable {g : Geometry} {capacity : Nat}

/-- An operation reads no operand that its text does not show. -/
theorem State.perform_overlay (s : State g capacity) (i j : Instruction) :
    s.perform (i.overlay j) = s.perform i := by
  obtain ⟨operation, raw, x, y, n, nn, nnn⟩ := i
  cases operation <;> rfl

theorem State.executeInstruction_overlay (s : State g capacity) (i j : Instruction) :
    s.executeInstruction (i.overlay j) = s.executeInstruction i := by
  rw [executeInstruction, perform_overlay]
  rfl

/-! ## Words with one text -/

/-- All but the shifts show every operand that their words have room for. -/
theorem assemble_overlay {i : Instruction} (hright : i.operation ≠ .shiftRight)
    (hleft : i.operation ≠ .shiftLeft) (j : Instruction) :
    assemble i.operation (i.overlay j).operands = assemble i.operation i.operands := by
  obtain ⟨operation, raw, x, y, n, nn, nnn⟩ := i
  cases operation with
  | shiftRight => exact absurd rfl hright
  | shiftLeft => exact absurd rfl hleft
  | _ => rfl

/-- Two words with one text are one word, except that a shift does not show its second register. -/
theorem words_of_assembly_eq {v w : Word} {i j : Instruction} (hv : decode v.toNat = .ok i)
    (hw : decode w.toNat = .ok j) (h : i.assembly = j.assembly) :
    v = w ∨ (Opcode.mk v).n2 = (Opcode.mk w).n2 ∧
      (Operation.shiftRight.Matches v ∧ Operation.shiftRight.Matches w ∨
        Operation.shiftLeft.Matches v ∧ Operation.shiftLeft.Matches w) := by
  obtain ⟨hmatchv, hi⟩ := Opcode.eq_withOperation_of_decode (decode_toNat_eq_ok_iff.mp hv)
  obtain ⟨hmatchw, hj⟩ := Opcode.eq_withOperation_of_decode (decode_toNat_eq_ok_iff.mp hw)
  have hoverlay := Instruction.assembly_eq_iff.mp h
  have hop : i.operation = j.operation := by
    show (i.overlay j).operation = j.operation
    rw [hoverlay]
  have hx : .x ∈ i.operation.template → (Opcode.mk v).n2 = (Opcode.mk w).n2 := by
    intro hmem
    have hxs : (i.overlay j).x = j.x := congrArg Instruction.x hoverlay
    rw [Instruction.overlay, if_pos hmem, hi, hj] at hxs
    exact hxs
  -- the template of a shift is the only one that leaves out a register of the instruction
  by_cases hright : i.operation = .shiftRight
  · right
    refine ⟨hx (by rw [hright]; decide), .inl ⟨?_, ?_⟩⟩
    · rwa [← hright]
    · rwa [← hright, hop]
  by_cases hleft : i.operation = .shiftLeft
  · right
    refine ⟨hx (by rw [hleft]; decide), .inr ⟨?_, ?_⟩⟩
    · rwa [← hleft]
    · rwa [← hleft, hop]
  left
  rw [← assemble_of_decode_toNat hv, ← assemble_of_decode_toNat hw,
    ← assemble_overlay hright hleft j, hoverlay, hop]

/-- **The assembly text determines the behaviour.** Instructions with the same text take every state
to the same state or fail on it with the same error. Words that decode and have one text are one
word, or two shifts in the same direction of the same register. No such word is written like
data. -/
theorem assembly_determines_behaviour :
    (∀ i j : Instruction, i.assembly = j.assembly →
      ∀ (g : Geometry) (capacity : Nat) (s : State g capacity),
        s.executeInstruction i = s.executeInstruction j) ∧
    (∀ (v w : Word) (i j : Instruction), decode v.toNat = .ok i → decode w.toNat = .ok j →
      i.assembly = j.assembly →
        v = w ∨ (Opcode.mk v).n2 = (Opcode.mk w).n2 ∧
          (Operation.shiftRight.Matches v ∧ Operation.shiftRight.Matches w ∨
            Operation.shiftLeft.Matches v ∧ Operation.shiftLeft.Matches w)) ∧
    ∀ (v w : Word) (i : Instruction), decode v.toNat = .ok i →
      i.assembly ≠ "DW " ++ Numeral.hexText 4 w.toNat := by
  refine ⟨fun i j h g capacity s ↦ ?_, fun v w i j ↦ words_of_assembly_eq,
    fun v w i _ ↦ i.assembly_ne_data _⟩
  rw [← s.executeInstruction_overlay i j, Instruction.assembly_eq_iff.mp h]

/-- Two words that shift `V1` to the right have one text, and executing them is the same. -/
theorem assembly_determines_behaviour_of_two_shifts :
    ∃ i j : Instruction, decode 0x8126 = .ok i ∧ decode 0x8136 = .ok j ∧ i ≠ j ∧
      i.assembly = j.assembly ∧
      (∀ (g : Geometry) (capacity : Nat) (s : State g capacity),
        s.executeInstruction i = s.executeInstruction j) ∧
      (Opcode.mk 0x8126).n2 = (Opcode.mk 0x8136).n2 ∧
      i.assembly ≠ "DW " ++ Numeral.hexText 4 0x8126 := by
  have hi : decode 0x8126 = .ok ((Opcode.mk 0x8126).withOperation .shiftRight) := rfl
  have hj : decode 0x8136 = .ok ((Opcode.mk 0x8136).withOperation .shiftRight) := rfl
  have htext : ((Opcode.mk 0x8126).withOperation .shiftRight).assembly =
      ((Opcode.mk 0x8136).withOperation .shiftRight).assembly := rfl
  refine ⟨_, _, hi, hj, by decide, htext, assembly_determines_behaviour.1 _ _ htext, ?_,
    assembly_determines_behaviour.2.2 0x8126 0x8126 _ hi⟩
  obtain h | ⟨h, -⟩ := assembly_determines_behaviour.2.1 0x8126 0x8136 _ _ hi hj htext
  · cases h
  · exact h

end ChipEight
