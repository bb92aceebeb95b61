import ChipEight.CommandLine.Request
import ChipEight.Proofs.Numerals
import Mathlib.Data.List.TakeWhile

/-!
# Numbers as arguments

Any whole number that has not too many digits can be given to a switch of the command line. It is
written as a decimal numeral, and `Integer.read?_text` reads it back. A numeral is a word for the
command line, also if it begins with a minus sign: it looks like a switch then, but it is the
numeral of a negative number and short for no switch, `Token.ofArgument_text`.
-/

namespace ChipEight

/-! ## Digits -/

/-- That characters are decimal digits, and that there are some. -/
def AreDigits (cs : List Char) : Prop := cs ≠ [] ∧ ∀ c ∈ cs, ∃ d < 10, c = Nat.digitChar d

theorem digitChar_not_mem : ∀ d < 10, Nat.digitChar d ∉ ['_', '-', '+', '=', 'h', '\n'] := by
  decide

theorem AreDigits.ne {cs : List Char} (h : AreDigits cs) {c c' : Char} (hc : c ∈ cs)
    (hc' : c' ∈ ['_', '-', '+', '=', 'h', '\n']) : c ≠ c' := by
  rintro rfl
  obtain ⟨d, hd, rfl⟩ := h.2 c hc
  exact digitChar_not_mem d hd hc'

theorem AreDigits.ne_cons {cs rest : List Char} (h : AreDigits cs) {c : Char}
    (hc : c ∈ ['_', '-', '+', '=', 'h', '\n']) : cs ≠ c :: rest := by
  rintro rfl
  exact h.ne List.mem_cons_self hc rfl

theorem areDigits_toDigits (n : Nat) : AreDigits (Nat.toDigits 10 n) :=
  ⟨Nat.toDigits_ne_nil, fun _ hc ↦ Numeral.exists_of_mem_toDigits (by decide) hc⟩

theorem Numeral.decimal_cases (v : Int) :
    decimal v = Nat.toDigits 10 v.natAbs ∧ v = v.natAbs ∨
      decimal v = '-' :: Nat.toDigits 10 v.natAbs ∧ v = -v.natAbs := by
  rcases v with n | n
  · exact .inl ⟨rfl, rfl⟩
  · exact .inr ⟨rfl, rfl⟩

namespace Integer

theorem digit?_digitChar : ∀ d < 10, digit? (Nat.digitChar d) = some d := by decide

theorem isBlank_digitChar : ∀ d < 10, isBlank (Nat.digitChar d) = false := by decide

theorem digit?_eq {c : Char} (h : ∃ d < 10, c = Nat.digitChar d) :
    digit? c = some (Numeral.digitValue c) := by
  obtain ⟨d, hd, rfl⟩ := h
  rw [digit?_digitChar d hd, Numeral.digitValue_digitChar d (by omega)]

theorem digits?_eq {cs : List Char} (h : AreDigits cs) :
    digits? cs = some (cs.map Numeral.digitValue) := by
  induction cs with
  | nil => exact absurd rfl h.1
  | cons c cs ih =>
    have hc := digit?_eq (h.2 c List.mem_cons_self)
    rcases cs with _ | ⟨c', cs⟩
    · rw [digits?, hc]
      rfl
    · have hcs : AreDigits (c' :: cs) :=
        ⟨List.cons_ne_nil _ _, fun c hc ↦ h.2 c (List.mem_cons_of_mem _ hc)⟩
      rw [digits?, hc, ih hcs]
      · rfl
      · exact List.cons_ne_nil _ _
      · exact fun _ ↦ hcs.ne_cons (by decide)

theorem natural?_toDigits {n : Nat} (h : (Nat.toDigits 10 n).length ≤ maxDigits) :
    natural? (Nat.toDigits 10 n) = some n := by
  have hvalue :
      ((Nat.toDigits 10 n).map Numeral.digitValue).foldl (fun n d ↦ 10 * n + d) 0 = n := by
    rw [List.foldl_map]
    exact Numeral.value_toDigits_ten n
  rw [natural?, digits?_eq (areDigits_toDigits n)]
  simp only [List.length_map, h, if_true, hvalue]

theorem isBlank_eq_false_of_mem_decimal {v : Int} {c : Char} (h : c ∈ Numeral.decimal v) :
    isBlank c = false := by
  have hdigit (h : c ∈ Nat.toDigits 10 v.natAbs) : isBlank c = false := by
    obtain ⟨d, hd, rfl⟩ := (areDigits_toDigits _).2 c h
    exact isBlank_digitChar d hd
  obtain ⟨hv, -⟩ | ⟨hv, -⟩ := Numeral.decimal_cases v
  · exact hdigit (hv ▸ h)
  · rw [hv] at h
    obtain rfl | h := List.mem_cons.mp h
    · rfl
    · exact hdigit h

theorem dropWhile_isBlank {cs : List Char} (h : ∀ c ∈ cs, isBlank c = false) :
    cs.dropWhile isBlank = cs := by
  rw [List.dropWhile_eq_self_iff]
  intro hlength
  rw [h _ (List.getElem_mem hlength)]
  exact Bool.false_ne_true

/-- A decimal numeral is read back, unless it has too many digits. -/
theorem read?_text {v : Int} (h : (Nat.toDigits 10 v.natAbs).length ≤ maxDigits) :
    read? (Numeral.text v) = some v := by
  have hblank (c : Char) (hc : c ∈ Numeral.decimal v) := isBlank_eq_false_of_mem_decimal hc
  have htrim : (((Numeral.decimal v).dropWhile isBlank).reverse.dropWhile isBlank).reverse =
      Numeral.decimal v := by
    rw [dropWhile_isBlank hblank, dropWhile_isBlank, List.reverse_reverse]
    intro c hc
    exact hblank c (List.mem_reverse.mp hc)
  simp only [read?, Numeral.text, String.toList_ofList, htrim]
  -- a numeral begins with a digit, or with the one sign that a number is written with
  obtain ⟨hv, habs⟩ | ⟨hv, habs⟩ := Numeral.decimal_cases v
  · rw [hv]
    split
    · exact absurd ‹_› ((areDigits_toDigits _).ne_cons (by decide))
    · exact absurd ‹_› ((areDigits_toDigits _).ne_cons (by decide))
    · rw [natural?_toDigits h]
      exact congrArg some habs.symm
  · rw [hv]
    simp only [natural?_toDigits h]
    exact congrArg some habs.symm

end Integer

/-! ## Words -/

namespace CommandLine

theorem Switch.second_of_mem_table : ∀ entry ∈ Switch.table,
    entry.1.toList[1]? = some '-' ∨ entry.1.toList[1]? = some 'h' := by
  decide +kernel

theorem Switch.second_ne_of_mem_table {entry : String × Switch} (h : entry ∈ Switch.table)
    {digit : Char} {rest : List Char} (hdigits : AreDigits (digit :: rest)) :
    entry.1.toList[1]? ≠ some digit := by
  intro heq
  obtain hdash | hletter := Switch.second_of_mem_table entry h
  · rw [hdash] at heq
    exact hdigits.ne List.mem_cons_self (by decide) (Option.some.inj heq).symm
  · rw [hletter] at heq
    exact hdigits.ne List.mem_cons_self (by decide) (Option.some.inj heq).symm

namespace Token

section NegativeNumber

variable {digit : Char} {rest : List Char}

theorem isNegativeNumber_of_areDigits (h : AreDigits (digit :: rest)) :
    isNegativeNumber ('-' :: digit :: rest) = true := by
  have hlast : (digit :: rest).getLast? ≠ some '\n' := by
    intro hlast
    exact h.ne (List.mem_of_getLast? hlast) (by decide) rfl
  have hall : (digit :: rest).dropWhile (fun c ↦ (Integer.digit? c).isSome) = [] := by
    rw [List.dropWhile_eq_nil_iff]
    intro c hc
    rw [Integer.digit?_eq (h.2 c hc)]
    rfl
  simp only [isNegativeNumber, if_neg hlast, hall]
  rfl

theorem splitEquals_of_areDigits (h : AreDigits (digit :: rest)) :
    splitEquals ('-' :: digit :: rest) = none := by
  have hnone : ('-' :: digit :: rest).dropWhile (fun c ↦ decide (c ≠ '=')) = [] := by
    rw [List.dropWhile_eq_nil_iff]
    intro c hc
    rw [decide_eq_true_eq]
    obtain rfl | hc := List.mem_cons.mp hc
    · decide
    · exact h.ne hc (by decide)
  rw [splitEquals, hnone]

theorem candidates_of_areDigits (h : AreDigits (digit :: rest)) :
    candidates ('-' :: digit :: rest) = [] := by
  have hnone : (Switch.table.filter fun e ↦ e.1.toList = ['-', digit]) = [] := by
    rw [List.filter_eq_nil_iff]
    intro entry hentry heq
    apply Switch.second_ne_of_mem_table hentry h
    rw [of_decide_eq_true heq]
    rfl
  rw [candidates, hnone]
  · rfl
  · exact h.ne List.mem_cons_self (by decide)

theorem lookup_of_areDigits (h : AreDigits (digit :: rest)) {text : String}
    (htext : text.toList = '-' :: digit :: rest) : Switch.table.lookup text = none := by
  rw [List.lookup_eq_none_iff]
  intro entry hentry
  rw [bne_iff_ne]
  rintro rfl
  apply Switch.second_ne_of_mem_table hentry h
  rw [htext]
  rfl

end NegativeNumber

theorem ofArgument_text (v : Int) : ofArgument (Numeral.text v) = .ok (.word (Numeral.text v)) := by
  have htext : (Numeral.text v).toList = Numeral.decimal v := String.toList_ofList
  have hdigits := areDigits_toDigits v.natAbs
  obtain ⟨hv, -⟩ | ⟨hv, -⟩ := Numeral.decimal_cases v
  · rw [ofArgument, htext, hv]
    split
    · exact absurd ‹_› (hdigits.ne_cons (by decide))
    · rfl
  · obtain ⟨digit, rest, hcons⟩ := List.exists_cons_of_ne_nil hdigits.1
    rw [hcons] at hdigits hv
    have hword : ofDashed (Numeral.text v) = .ok (.word (Numeral.text v)) := by
      simp only [ofDashed, htext, hv, candidates_of_areDigits hdigits,
        isNegativeNumber_of_areDigits hdigits, Bool.true_or, if_true]
    simp only [ofArgument, htext, hv, lookup_of_areDigits hdigits (htext.trans hv),
      splitEquals_of_areDigits hdigits, hword]

end Token

/-! ## Four numbers -/

/-- The command line that gives a run all of its numbers, and a progress bar or none. -/
def numberArguments (rom : String) (ticks width height seed : Int) (progress : Bool) :
    List String :=
  [rom, "--ticks", Numeral.text ticks, "--width", Numeral.text width, "--height",
    Numeral.text height, "--seed", Numeral.text seed] ++ if progress then ["--progress"] else []

theorem Token.ofArguments_cons {text : String} {token : Token} (hne : text ≠ "--")
    (h : ofArgument text = .ok token) (rest : List String) :
    ofArguments (text :: rest) = (ofArguments rest).map (token :: ·) := by
  rw [ofArguments, if_neg hne, h]
  rcases ofArguments rest with e | tokens
  · rfl
  · rfl

theorem Token.ofArguments_number (s : Switch) {spelling : String}
    (h : ofArgument spelling = .ok (.switch s none)) (hne : spelling ≠ "--") (v : Int)
    (rest : List String) :
    ofArguments (spelling :: Numeral.text v :: rest) =
      (ofArguments rest).map fun tokens ↦ .switch s none :: .word (Numeral.text v) :: tokens := by
  have htext : Numeral.text v ≠ "--" := by
    intro heq
    have hword := ofArgument_text v
    rw [heq] at hword
    exact absurd hword (by decide +kernel)
  rw [ofArguments_cons hne h, ofArguments_cons htext (ofArgument_text v)]
  rcases ofArguments rest with e | tokens
  · rfl
  · rfl

theorem Draft.integer_text (s : Switch) {v : Int}
    (h : (Nat.toDigits 10 v.natAbs).length ≤ Integer.maxDigits) :
    integer s (Numeral.text v) = .ok v := by
  rw [integer, Integer.read?_text h]

/-- Any four numbers can be given, unless one of them has too many digits. -/
theorem Request.ofArguments_numberArguments (rom : String) (ticks width height seed : Int)
    (progress : Bool) (hrom : rom.toList.head? ≠ some '-')
    (hdigits : ∀ v ∈ [ticks, width, height, seed],
      (Nat.toDigits 10 v.natAbs).length ≤ Integer.maxDigits) :
    ofArguments (numberArguments rom ticks width height seed progress) = .ok
      { rom := Storage.tidy rom
        settings :=
          { ticks := some ticks, width := some width, height := some height
            seed := some seed, progress } } := by
  have hword : Token.ofArgument rom = .ok (.word rom) := by
    rw [Token.ofArgument]
    split
    · rw [‹rom.toList = _›] at hrom
      exact absurd rfl hrom
    · rfl
  have hdashes : rom ≠ "--" := by
    rintro rfl
    exact hrom rfl
  let marks : List Token := if progress then [.switch .progress none] else []
  have hmarks : Token.ofArguments (if progress then ["--progress"] else []) = .ok marks := by
    rcases progress with _ | _
    · rfl
    · decide +kernel
  -- every argument is classified before any of them is taken
  have htokens : Token.ofArguments (numberArguments rom ticks width height seed progress) =
      .ok ([.word rom, .switch .ticks none, .word (Numeral.text ticks), .switch .width none,
        .word (Numeral.text width), .switch .height none, .word (Numeral.text height),
        .switch .seed none, .word (Numeral.text seed)] ++ marks) := by
    simp only [numberArguments, List.cons_append, List.nil_append]
    rw [Token.ofArguments_cons hdashes hword,
      Token.ofArguments_number .ticks (by decide +kernel) (by decide +kernel),
      Token.ofArguments_number .width (by decide +kernel) (by decide +kernel),
      Token.ofArguments_number .height (by decide +kernel) (by decide +kernel),
      Token.ofArguments_number .seed (by decide +kernel) (by decide +kernel), hmarks]
    rfl
  simp only [List.forall_mem_cons] at hdigits
  obtain ⟨hticks, hwidth, hheight, hseed, -⟩ := hdigits
  have htaken : Draft.take {} ([.word rom, .switch .ticks none, .word (Numeral.text ticks),
      .switch .width none, .word (Numeral.text width), .switch .height none,
      .word (Numeral.text height), .switch .seed none, .word (Numeral.text seed)] ++ marks) = .ok
      { rom := some rom
        settings :=
          { ticks := some ticks, width := some width, height := some height
            seed := some seed, progress } } := by
    simp only [List.cons_append, List.nil_append, Draft.take, Switch.takesValue, if_true,
      Draft.assign, Draft.integer_text, hticks, hwidth, hheight, hseed, bind, Except.bind]
    rcases progress with _ | _
    · rfl
    · rfl
  rw [ofArguments, htokens]
  change (Draft.take {} _).bind _ = _
  rw [htaken]
  rfl

end CommandLine

end ChipEight
