import ChipEight.Decode
import ChipEight.Encoding

/-!
# Decoding and the instruction table

Decoding goes by families of nibbles, the instruction table by masks and patterns. This file shows
that they describe the same language: an opcode decodes to an operation exactly when its word lies
in the row of that operation.

## Masks as arithmetic

Every mask of the table keeps the first nibble and a few of the lowest bits. A masked word is
therefore a sum of two parts, and membership in a row becomes two equations between numbers,
`Operation.matches_iff`. Decoding reads the same numbers, so from there on no bit is looked at.
-/

namespace ChipEight

/-! ## Masked words -/

/-- How many values the fixed bits behind the first nibble can take, all of them lowest bits. -/
def Form.fixedLow : Form → Nat
  | .plain => 0x1000
  | .register => 0x100
  | .registers => 0x10
  | .address | .registerConst | .registersRows => 1

theorem toNat_and_split (n m : Nat) :
    n &&& m = 0x1000 * (n / 0x1000 &&& m / 0x1000) + (n % 0x1000 &&& m % 0x1000) := by
  rw [← Nat.and_div_two_pow (n := 12), ← Nat.and_mod_two_pow (n := 12)]
  exact (Nat.div_add_mod ..).symm

theorem Form.toNat_and_mask (f : Form) (w : Word) :
    (w &&& f.mask).toNat = w.toNat / 0x1000 * 0x1000 + w.toNat % f.fixedLow := by
  have hw : w.toNat < 0x10000 := w.isLt
  -- every mask keeps the first digit; they differ in how many of the low bits they keep
  have htop : w.toNat / 0x1000 &&& 0xF = w.toNat / 0x1000 := by
    rw [Nat.and_two_pow_sub_one_eq_mod (n := 4)]
    omega
  rw [BitVec.toNat_and, toNat_and_split]
  cases f with
  | plain =>
    have hlow : w.toNat % 0x1000 &&& 0xFFF = w.toNat % 0x1000 % 0x1000 :=
      Nat.and_two_pow_sub_one_eq_mod (n := 12) _
    simp [mask, fixedLow, htop, hlow]
    omega
  | register =>
    have hlow : w.toNat % 0x1000 &&& 0xFF = w.toNat % 0x1000 % 0x100 :=
      Nat.and_two_pow_sub_one_eq_mod (n := 8) _
    simp [mask, fixedLow, htop, hlow]
    omega
  | registers =>
    have hlow : w.toNat % 0x1000 &&& 0xF = w.toNat % 0x1000 % 0x10 :=
      Nat.and_two_pow_sub_one_eq_mod (n := 4) _
    simp [mask, fixedLow, htop, hlow]
    omega
  | address | registerConst | registersRows =>
    simp [mask, fixedLow, htop]
    omega

/-! ## Rows -/

/-- A word lies in a row when its first nibble and its fixed low bits are those of the pattern. -/
theorem Operation.matches_iff (operation : Operation) (o : Opcode) :
    operation.Matches o.word ↔ o.n1 = operation.pattern.toNat / 0x1000 ∧
      o.value % operation.form.fixedLow = operation.pattern.toNat % 0x1000 := by
  have hlt := o.value_lt
  have hlow : o.value % operation.form.fixedLow < 0x1000 := by
    cases operation <;> simp [form, Form.fixedLow] <;> omega
  rw [Matches, ← BitVec.toNat_inj, Form.toNat_and_mask, ← Opcode.value, Opcode.n1]
  omega

theorem Operation.value_of_plain {operation : Operation} {o : Opcode}
    (hform : operation.form = .plain) (h : operation.Matches o.word) :
    o.value = operation.pattern.toNat := by
  obtain ⟨htop, hlow⟩ := (operation.matches_iff o).mp h
  have hlt := o.value_lt
  rw [hform] at hlow
  simp only [Opcode.n1, Form.fixedLow] at htop hlow
  omega

theorem Opcode.operation?_of_matches {o : Opcode} {operation : Operation}
    (h : operation.Matches o.word) : o.operation? = some operation := by
  obtain ⟨htop, hlow⟩ := (operation.matches_iff o).mp h
  cases hform : operation.form with
  | plain =>
    -- two rows share a family, and only the whole word tells them apart
    have hvalue := Operation.value_of_plain hform h
    cases operation <;> simp_all [operation?, Operation.form, Operation.pattern]
  | _ =>
    cases operation <;>
      simp_all [operation?, Operation.form, Operation.pattern, Form.fixedLow, n4, constant]

theorem Opcode.matches_of_operation? {o : Opcode} {operation : Operation}
    (h : o.operation? = some operation) : operation.Matches o.word := by
  have hlt := o.value_lt
  rw [Operation.matches_iff]
  unfold operation? at h
  split at h
  all_goals try split at h
  all_goals cases h
  all_goals
    simp_all [Operation.form, Operation.pattern, Form.fixedLow, n4, constant, n1, Nat.mod_one]
  -- what is left are the misc operations, whose family is the one that no other claims
  all_goals omega

/-- **Decoding follows the table.** -/
theorem Opcode.operation?_eq_some_iff {o : Opcode} {operation : Operation} :
    o.operation? = some operation ↔ operation.Matches o.word :=
  ⟨matches_of_operation?, operation?_of_matches⟩

theorem Opcode.operation?_eq_none_iff {o : Opcode} :
    o.operation? = none ↔ ∀ operation : Operation, ¬operation.Matches o.word := by
  simp only [Option.eq_none_iff_forall_ne_some, ne_eq, operation?_eq_some_iff]

/-- No word lies in two rows. -/
theorem Operation.eq_of_matches {a b : Operation} {w : Word} (ha : a.Matches w)
    (hb : b.Matches w) : a = b := by
  have hab : some a = some b := by
    rw [← Opcode.operation?_of_matches (o := ⟨w⟩) ha, Opcode.operation?_of_matches (o := ⟨w⟩) hb]
  exact Option.some.inj hab

end ChipEight
