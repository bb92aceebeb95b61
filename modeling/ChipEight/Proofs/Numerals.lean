import ChipEight.Text.Numeral

/-!
# Reading numerals back

A numeral determines the number that it was written for. To show it, numerals are read: `value`
takes the digits one after the other, `read` a minus sign before them, and reading gives back what
was written, for hexadecimal numerals of every width and for decimal ones. Zeros in front have no
part in it, so padding loses nothing, not even for a numeral that is already wider.

It follows that writing is injective, `hex_injective` and `decimal_injective`, on all whole numbers.
-/

namespace ChipEight.Numeral

def capitals : List Char :=
  ['0', '1', '2', '3', '4', '5', '6', '7', '8', '9', 'A', 'B', 'C', 'D', 'E', 'F']

def digitValue (c : Char) : Nat := capitals.idxOf c.toUpper

/-- The number that digits denote in a base. -/
def value (base : Nat) (digits : List Char) : Nat :=
  digits.foldl (fun v c ↦ base * v + digitValue c) 0

/-- The whole number that a numeral denotes in a base. -/
def read (base : Nat) : List Char → Int
  | '-' :: digits => -(value base digits : Int)
  | digits => value base digits

/-! ## Digits -/

theorem digitValue_digitChar : ∀ d < 16, digitValue (Nat.digitChar d) = d := by decide

theorem digitValue_toUpper_digitChar : ∀ d < 16, digitValue (Nat.digitChar d).toUpper = d := by
  decide

theorem toUpper_digitChar_mem : ∀ d < 16, (Nat.digitChar d).toUpper ∈ capitals := by decide

theorem exists_of_mem_toDigits {b n : Nat} (hb : 1 < b) {c : Char} (h : c ∈ Nat.toDigits b n) :
    ∃ d < b, c = Nat.digitChar d := by
  induction n using Nat.base_induction b hb with
  | single m hm =>
    rw [Nat.toDigits_of_lt_base hm, List.mem_singleton] at h
    exact ⟨m, hm, h⟩
  | digit m k hk hm ih =>
    rw [← Nat.toDigits_append_toDigits hb hm hk, List.mem_append,
      Nat.toDigits_of_lt_base hk, List.mem_singleton] at h
    obtain h | h := h
    · exact ih h
    · exact ⟨k, hk, h⟩

theorem value_concat (base : Nat) (digits : List Char) (c : Char) :
    value base (digits ++ [c]) = base * value base digits + digitValue c := by
  rw [value, List.foldl_append]
  rfl

theorem value_map_toDigits {f : Char → Char} (hf : ∀ d < 16, digitValue (f (Nat.digitChar d)) = d)
    {b : Nat} (hb : 1 < b) (hb' : b ≤ 16) (n : Nat) :
    value b ((Nat.toDigits b n).map f) = n := by
  induction n using Nat.base_induction b hb with
  | single m hm =>
    rw [Nat.toDigits_of_lt_base hm]
    have hdigit := hf m (by omega)
    simpa [value] using hdigit
  | digit m k hk hm ih =>
    rw [← Nat.toDigits_append_toDigits hb hm hk, Nat.toDigits_of_lt_base hk, List.map_append,
      List.map_singleton, value_concat, ih, hf k (by omega)]

theorem value_zeroPadded (base width : Nat) (digits : List Char) :
    value base (zeroPadded width digits) = value base digits := by
  rw [zeroPadded]
  induction width - digits.length with
  | zero => rfl
  | succ k ih =>
    -- a zero in front leaves the sum at zero
    rw [List.replicate_succ, List.cons_append, value, List.foldl_cons]
    exact ih

theorem value_hexDigits (n : Nat) : value 16 (hexDigits n) = n :=
  value_map_toDigits digitValue_toUpper_digitChar (by decide) (by decide) n

theorem value_toDigits_ten (n : Nat) : value 10 (Nat.toDigits 10 n) = n := by
  have hmap := value_map_toDigits (f := id) digitValue_digitChar (b := 10) (by decide) (by decide) n
  rwa [List.map_id] at hmap

/-! ## Characters of a numeral -/

theorem mem_capitals_of_mem_hexDigits {n : Nat} {c : Char} (h : c ∈ hexDigits n) :
    c ∈ capitals := by
  obtain ⟨c', hc', rfl⟩ := List.mem_map.mp h
  obtain ⟨d, hd, rfl⟩ := exists_of_mem_toDigits (by decide) hc'
  exact toUpper_digitChar_mem d hd

theorem mem_zeroPadded {width : Nat} {digits : List Char} {c : Char}
    (h : c ∈ zeroPadded width digits) : c = '0' ∨ c ∈ digits := by
  rw [zeroPadded, List.mem_append] at h
  exact h.imp_left List.eq_of_mem_replicate

theorem mem_capitals_of_mem_zeroPadded {width n : Nat} {c : Char}
    (h : c ∈ zeroPadded width (hexDigits n)) : c ∈ capitals := by
  obtain rfl | h := mem_zeroPadded h
  · decide
  · exact mem_capitals_of_mem_hexDigits h

theorem mem_hex {width : Nat} {v : Int} {c : Char} (h : c ∈ hex width v) :
    c = '-' ∨ c ∈ capitals := by
  cases v with
  | ofNat n => exact .inr (mem_capitals_of_mem_zeroPadded h)
  | negSucc n =>
    obtain rfl | h := List.mem_cons.mp h
    · exact .inl rfl
    · exact .inr (mem_capitals_of_mem_zeroPadded h)

theorem mem_decimal {v : Int} {c : Char} (h : c ∈ decimal v) : c = '-' ∨ c.isDigit = true := by
  cases v with
  | ofNat n => exact .inr (Nat.isDigit_of_mem_toDigits (by decide) (by decide) h)
  | negSucc n =>
    obtain rfl | h := List.mem_cons.mp h
    · exact .inl rfl
    · exact .inr (Nat.isDigit_of_mem_toDigits (by decide) (by decide) h)

theorem decimal_ne_nil (v : Int) : decimal v ≠ [] := by
  cases v with
  | ofNat n => exact Nat.toDigits_ne_nil
  | negSucc n => exact List.cons_ne_nil _ _

theorem length_hexDigits_le {n : Nat} (h : n < 0x10000) : (hexDigits n).length ≤ 4 := by
  rw [hexDigits, List.length_map]
  exact (Nat.length_toDigits_le_iff (by decide) (by decide)).mpr h

/-! ## Numerals -/

theorem read_of_not_mem {base : Nat} {digits : List Char} (h : '-' ∉ digits) :
    read base digits = value base digits := by
  rw [read]
  rintro rest rfl
  exact h List.mem_cons_self

theorem read_hex (width : Nat) (v : Int) : read 16 (hex width v) = v := by
  cases v with
  | ofNat n =>
    have hsign : '-' ∉ zeroPadded width (hexDigits n) := fun h ↦
      absurd (mem_capitals_of_mem_zeroPadded h) (by decide)
    rw [hex, read_of_not_mem hsign, value_zeroPadded, value_hexDigits]
    rfl
  | negSucc n =>
    rw [hex, read, value_zeroPadded, value_hexDigits]
    rfl

theorem read_decimal (v : Int) : read 10 (decimal v) = v := by
  cases v with
  | ofNat n =>
    have hsign : '-' ∉ Nat.toDigits 10 n := fun h ↦
      absurd (Nat.isDigit_of_mem_toDigits (by decide) (by decide) h) (by decide)
    rw [decimal, read_of_not_mem hsign, value_toDigits_ten]
    rfl
  | negSucc n =>
    rw [decimal, read, value_toDigits_ten]
    rfl

/-- **Hexadecimal numerals** of one width differ for different numbers. -/
theorem hex_injective (width : Nat) : Function.Injective (hex width) :=
  Function.LeftInverse.injective (read_hex width)

/-- **Decimal numerals** differ for different numbers. -/
theorem decimal_injective : Function.Injective decimal :=
  Function.LeftInverse.injective read_decimal

end ChipEight.Numeral
