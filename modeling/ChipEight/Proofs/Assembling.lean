import ChipEight.Proofs.Ending

/-!
# Assembling and decoding

`assemble` puts a word together from the row of an operation and the operands that the row has room
for; decoding takes it apart again. This file shows that neither loses anything: an assembled word
decodes to its operation and its operands, and the operands of a decoded word, assembled, are that
word.

## Words as sums

The fixed bits of a row and its fields have no bit in common, so the word is their sum,
`toNat_assemble`. The fields are a sum as well, one summand for each operand, and what is left to
show is arithmetic with the weights of the four nibbles.
-/

namespace ChipEight

/-- The operands of an instruction, each cut to the width of its field. -/
def Instruction.operands (i : Instruction) : Operands where
  x := BitVec.ofNat 4 i.x
  y := BitVec.ofNat 4 i.y
  n := BitVec.ofInt 4 i.n
  nn := BitVec.ofInt 8 i.nn
  nnn := BitVec.ofInt 12 i.nnn

/-- An instruction has these operands, as far as a word of the form has room for them. -/
def Form.Carried (f : Form) (a : Operands) (i : Instruction) : Prop :=
  match f with
  | .plain => True
  | .address => i.nnn = a.nnn.toNat
  | .registerConst => (i.x : Nat) = a.x.toNat ∧ i.nn = a.nn.toNat
  | .registers => (i.x : Nat) = a.x.toNat ∧ (i.y : Nat) = a.y.toNat
  | .registersRows => (i.x : Nat) = a.x.toNat ∧ (i.y : Nat) = a.y.toNat ∧ i.n = a.n.toNat
  | .register => (i.x : Nat) = a.x.toNat

/-- An instruction shows a number field by field. -/
structure Instruction.Shows (i : Instruction) (v : Int) : Prop where
  /-- The number itself. -/
  raw_eq : i.raw = v
  /-- The second nibble. -/
  x_eq : (i.x : Int) = v / 0x100 % 0x10
  /-- The third nibble. -/
  y_eq : (i.y : Int) = v / 0x10 % 0x10
  /-- The last nibble. -/
  n_eq : i.n = v % 0x10
  /-- The last two nibbles. -/
  nn_eq : i.nn = v % 0x100
  /-- The last three nibbles. -/
  nnn_eq : i.nnn = v % 0x1000

/-! ## Words as sums -/

theorem toNat_append_eq {m n : Nat} (a : BitVec m) (b : BitVec n) :
    (a ++ b).toNat = a.toNat <<< n + b.toNat := by
  rw [BitVec.toNat_append, Nat.shiftLeft_add_eq_or_of_lt b.isLt]

/-- The fields of a word, each weighted by the place of its last nibble. -/
theorem Form.toNat_fields (f : Form) (a : Operands) :
    (f.fields a).toNat =
      match f with
      | .plain => 0
      | .address => a.nnn.toNat
      | .registerConst => a.x.toNat * 0x100 + a.nn.toNat
      | .registers => a.x.toNat * 0x100 + a.y.toNat * 0x10
      | .registersRows => a.x.toNat * 0x100 + a.y.toNat * 0x10 + a.n.toNat
      | .register => a.x.toNat * 0x100 := by
  cases f with
  | plain => rfl
  | address | registerConst | register =>
    simp only [fields, toNat_append_eq, Nat.shiftLeft_eq]
    simp
  | registers | registersRows =>
    simp only [fields, toNat_append_eq, Nat.shiftLeft_eq]
    simp
    omega

theorem Form.fields_and_mask (f : Form) (a : Operands) : f.fields a &&& f.mask = 0#16 := by
  have hx := a.x.isLt
  have hy := a.y.isLt
  have hn := a.n.isLt
  have hnn := a.nn.isLt
  have hnnn := a.nnn.isLt
  apply BitVec.eq_of_toNat_eq
  rw [toNat_and_mask, toNat_fields]
  cases f <;> simp [fixedLow] <;> omega

theorem Operation.pattern_and_mask (o : Operation) : o.pattern &&& o.form.mask = o.pattern := by
  cases o <;> rfl

theorem Operation.pattern_low_lt (o : Operation) : o.pattern.toNat % 0x1000 < o.form.fixedLow := by
  cases o <;> decide

theorem matches_assemble (o : Operation) (a : Operands) : o.Matches (assemble o a) := by
  rw [Operation.Matches, assemble, BitVec.and_comm, BitVec.and_or_distrib_left, BitVec.and_comm,
    o.pattern_and_mask, BitVec.and_comm, o.form.fields_and_mask, BitVec.or_zero]

/-- A word is the sum of what its row fixes and of its fields. -/
theorem toNat_assemble (o : Operation) (a : Operands) :
    (assemble o a).toNat = o.pattern.toNat + (o.form.fields a).toNat := by
  have hdisjoint : o.pattern &&& o.form.fields a = 0#16 := by
    rw [← o.pattern_and_mask, BitVec.and_assoc, BitVec.and_comm o.form.mask,
      o.form.fields_and_mask, BitVec.and_zero]
  rw [assemble, ← BitVec.add_eq_or_of_and_eq_zero _ _ hdisjoint,
    BitVec.toNat_add_of_and_eq_zero hdisjoint]

/-! ## There and back -/

/-- What is assembled is what is decoded. -/
theorem carried_withOperation_assemble (o : Operation) (a : Operands) :
    o.form.Carried a ((Opcode.mk (assemble o a)).withOperation o) := by
  have hx := a.x.isLt
  have hy := a.y.isLt
  have hn := a.n.isLt
  have hnn := a.nn.isLt
  have hnnn := a.nnn.isLt
  have hlow := o.pattern_low_lt
  have hvalue := toNat_assemble o a
  rw [Form.toNat_fields] at hvalue
  cases hform : o.form <;>
    simp only [hform, Form.Carried, Form.fixedLow, Opcode.withOperation, Opcode.n2, Opcode.n3,
      Opcode.n4, Opcode.constant, Opcode.address, Opcode.value] at hlow hvalue ⊢ <;>
    omega

theorem assemble_operands_withOperation {o : Operation} {c : Opcode} (h : o.Matches c.word) :
    assemble o (c.withOperation o).operands = c.word := by
  obtain ⟨htop, hlow⟩ := (o.matches_iff c).mp h
  have hlt := c.value_lt
  apply BitVec.eq_of_toNat_eq
  rw [toNat_assemble, Form.toNat_fields]
  show _ = c.value
  cases hform : o.form <;>
    simp only [hform, Form.fixedLow, Instruction.operands, Opcode.withOperation, Opcode.n1,
      Opcode.n2, Opcode.n3, Opcode.n4, Opcode.constant, Opcode.address, BitVec.toNat_ofNat,
      BitVec.ofInt_natCast] at htop hlow ⊢ <;>
    omega

/-! ## Decoding numbers -/

open State (decode_of_le decode_of_not_le value_ofInt)

theorem decode_toNat (w : Word) : decode w.toNat = (Opcode.mk w).decode.mapError .fault := by
  have hw := w.isLt
  rw [decode_of_le (by omega) (by omega), BitVec.ofInt_natCast, BitVec.ofNat_toNat,
    BitVec.setWidth_eq]

theorem decode_toNat_eq_ok_iff {w : Word} {i : Instruction} :
    decode w.toNat = .ok i ↔ (Opcode.mk w).decode = .ok i := by
  rw [decode_toNat]
  constructor
  · intro h
    cases hdecode : (Opcode.mk w).decode with
    | error f =>
      rw [hdecode] at h
      cases h
    | ok j =>
      rw [hdecode] at h
      exact congrArg _ (Except.ok.inj h)
  · intro h
    rw [h]
    rfl

theorem decode_of_matches {o : Operation} {c : Opcode} (h : o.Matches c.word) :
    c.decode = .ok (c.withOperation o) := by
  rw [Opcode.decode, Opcode.operation?_of_matches h]

theorem Opcode.eq_withOperation_of_decode {c : Opcode} {i : Instruction} (h : c.decode = .ok i) :
    i.operation.Matches c.word ∧ i = c.withOperation i.operation := by
  obtain ⟨hop, hi⟩ := c.operation?_of_decode h
  exact ⟨Opcode.matches_of_operation? hop, hi⟩

theorem shows_withOperation (o : Operation) (c : Opcode) : (c.withOperation o).Shows c.value where
  raw_eq := rfl
  x_eq := rfl
  y_eq := rfl
  n_eq := rfl
  nn_eq := rfl
  nnn_eq := rfl

/-- An instruction is determined by its operation and the number that it shows. -/
theorem Instruction.Shows.eq {i j : Instruction} {v : Int} (hi : i.Shows v) (hj : j.Shows v)
    (h : i.operation = j.operation) : i = j := by
  have hx : i.x = j.x := Fin.ext (Int.ofNat.inj (hi.x_eq.trans hj.x_eq.symm))
  have hy : i.y = j.y := Fin.ext (Int.ofNat.inj (hi.y_eq.trans hj.y_eq.symm))
  have hraw := hi.raw_eq.trans hj.raw_eq.symm
  have hn := hi.n_eq.trans hj.n_eq.symm
  have hnn := hi.nn_eq.trans hj.nn_eq.symm
  have hnnn := hi.nnn_eq.trans hj.nnn_eq.symm
  cases i
  cases j
  simp_all

theorem Instruction.Shows.withOperation_eq {i : Instruction} {v : Int} (hi : i.Shows v)
    (h0 : 0 ≤ v) (h1 : v ≤ 0xFFFF) :
    (Opcode.mk (BitVec.ofInt 16 v)).withOperation i.operation = i := by
  have hshows := shows_withOperation i.operation ⟨BitVec.ofInt 16 v⟩
  rw [value_ofInt h0 h1] at hshows
  exact hshows.eq hi rfl

theorem decode_eq_ok_iff {v : Int} {i : Instruction} :
    decode v = .ok i ↔
      (0 ≤ v ∧ v ≤ 0xFFFF) ∧ i.operation.Matches (BitVec.ofInt 16 v) ∧ i.Shows v := by
  by_cases hv : v < 0 ∨ 0xFFFF < v
  · rw [decode_of_not_le hv]
    constructor
    · intro h
      cases h
    · rintro ⟨hle, -⟩
      omega
  have h0 : 0 ≤ v := by omega
  have h1 : v ≤ 0xFFFF := by omega
  rw [decode_of_le h0 h1]
  constructor
  · intro h
    cases hdecode : (Opcode.mk (BitVec.ofInt 16 v)).decode with
    | error f =>
      rw [hdecode] at h
      cases h
    | ok j =>
      rw [hdecode] at h
      obtain rfl := Except.ok.inj h
      obtain ⟨hmatch, heq⟩ := Opcode.eq_withOperation_of_decode hdecode
      refine ⟨⟨h0, h1⟩, hmatch, ?_⟩
      have hshows := shows_withOperation j.operation ⟨BitVec.ofInt 16 v⟩
      rwa [value_ofInt h0 h1, ← heq] at hshows
  · -- nothing but the operation and the digits of the number is left to choose
    rintro ⟨-, hmatch, hshows⟩
    rw [decode_of_matches (c := ⟨BitVec.ofInt 16 v⟩) hmatch, hshows.withOperation_eq h0 h1]
    rfl

theorem toNat_assemble_of_decode {v : Int} {i : Instruction} (h : decode v = .ok i) :
    ((assemble i.operation i.operands).toNat : Int) = v := by
  obtain ⟨⟨h0, h1⟩, hmatch, hshows⟩ := decode_eq_ok_iff.mp h
  have hback := assemble_operands_withOperation (c := ⟨BitVec.ofInt 16 v⟩) hmatch
  rw [hshows.withOperation_eq h0 h1] at hback
  rw [hback]
  exact value_ofInt h0 h1

theorem assemble_of_decode_toNat {w : Word} {i : Instruction} (h : decode w.toNat = .ok i) :
    assemble i.operation i.operands = w :=
  BitVec.eq_of_toNat_eq (Int.ofNat.inj (toNat_assemble_of_decode h))

theorem decode_range_iff {v : Int} :
    decode v = .error (.range (.opcode v)) ↔ v < 0 ∨ 0xFFFF < v := by
  refine ⟨fun h ↦ ?_, decode_of_not_le⟩
  by_cases hv : v < 0 ∨ 0xFFFF < v
  · exact hv
  · rw [decode_of_le (by omega) (by omega)] at h
    cases hdecode : (Opcode.mk (BitVec.ofInt 16 v)).decode <;> rw [hdecode] at h <;> cases h

theorem decode_unknown_iff {v : Int} :
    decode v = .error (.fault (.unknownOpcode v)) ↔
      (0 ≤ v ∧ v ≤ 0xFFFF) ∧ ∀ o : Operation, ¬o.Matches (BitVec.ofInt 16 v) := by
  rw [← Opcode.operation?_eq_none_iff (o := ⟨BitVec.ofInt 16 v⟩)]
  by_cases hv : v < 0 ∨ 0xFFFF < v
  · rw [decode_of_not_le hv]
    constructor
    · intro h
      cases h
    · rintro ⟨hle, -⟩
      omega
  have h0 : 0 ≤ v := by omega
  have h1 : v ≤ 0xFFFF := by omega
  rw [decode_of_le h0 h1, Opcode.decode, value_ofInt h0 h1]
  cases (Opcode.mk (BitVec.ofInt 16 v)).operation? with
  | none => exact iff_of_true rfl ⟨⟨h0, h1⟩, rfl⟩
  | some o =>
    constructor
    · intro h
      cases h
    · rintro ⟨-, h⟩
      cases h

/-! ## Opcodes of two bytes -/

theorem value_ofBytes_ofInt (high low : Int) :
    ((Opcode.ofBytes (Byte.ofInt high) (Byte.ofInt low)).value : Int) =
      0x100 * (high % 0x100) + low % 0x100 := by
  rw [Opcode.value_ofBytes, Byte.ofInt, Byte.ofInt, BitVec.toNat_ofInt, BitVec.toNat_ofInt]
  omega

theorem ofLowBytes_eq (high low : Int) :
    Opcode.ofLowBytes high low = .ok (.ofBytes (Byte.ofInt high) (Byte.ofInt low)) := by
  have hvalue : (Byte.ofInt high).toNat <<< 8 ||| (Byte.ofInt low).toNat =
      (Opcode.ofBytes (Byte.ofInt high) (Byte.ofInt low)).value := by
    rw [Opcode.value, Opcode.ofBytes, BitVec.toNat_append]
  have hlt := (Opcode.ofBytes (Byte.ofInt high) (Byte.ofInt low)).value_lt
  rw [Opcode.ofLowBytes, hvalue, Opcode.ofInt, if_pos (by omega), BitVec.ofInt_natCast,
    Opcode.value, BitVec.ofNat_toNat, BitVec.setWidth_eq]

/-- **Decoding accepts the table and loses nothing.** A number is refused as a number exactly when
it has more than sixteen bits, and as a word exactly when it lies in no row; no word lies in two
rows, and a word in a row decodes to the operation of the row with its own nibbles as operands. What
is assembled decodes to what it was assembled from, and what is decoded assembles to what it was
decoded from. Any two numbers make an opcode, of their lowest bytes. -/
theorem decode_accepts_table :
    (∀ v : Int,
      (decode v = .error (.range (.opcode v)) ↔ v < 0 ∨ 0xFFFF < v) ∧
      (decode v = .error (.fault (.unknownOpcode v)) ↔
        (0 ≤ v ∧ v ≤ 0xFFFF) ∧ ∀ o : Operation, ¬o.Matches (BitVec.ofInt 16 v)) ∧
      (∀ i, decode v = .ok i ↔
        (0 ≤ v ∧ v ≤ 0xFFFF) ∧ i.operation.Matches (BitVec.ofInt 16 v) ∧ i.Shows v) ∧
      (∀ o o' : Operation,
        o.Matches (BitVec.ofInt 16 v) → o'.Matches (BitVec.ofInt 16 v) → o = o') ∧
      ∀ i, decode v = .ok i → ((assemble i.operation i.operands).toNat : Int) = v) ∧
    (∀ (o : Operation) (a : Operands),
      ∃ i, decode (assemble o a).toNat = .ok i ∧ i.operation = o ∧ o.form.Carried a i) ∧
    ∀ high low : Int,
      Opcode.ofLowBytes high low = .ok (.ofBytes (Byte.ofInt high) (Byte.ofInt low)) ∧
        ((Opcode.ofBytes (Byte.ofInt high) (Byte.ofInt low)).value : Int) =
          0x100 * (high % 0x100) + low % 0x100 := by
  refine ⟨fun v ↦ ⟨decode_range_iff, decode_unknown_iff, fun i ↦ decode_eq_ok_iff,
    fun o o' h h' ↦ Operation.eq_of_matches h h', fun i h ↦ toNat_assemble_of_decode h⟩,
    fun o a ↦ ?_, fun high low ↦ ⟨ofLowBytes_eq high low, value_ofBytes_ofInt high low⟩⟩
  refine ⟨(Opcode.mk (assemble o a)).withOperation o, ?_, rfl, carried_withOperation_assemble o a⟩
  rw [decode_toNat, decode_of_matches (c := ⟨assemble o a⟩) (matches_assemble o a)]
  rfl

end ChipEight
