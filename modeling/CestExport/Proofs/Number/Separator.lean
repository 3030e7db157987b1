import CestExport.Number.Decimal
import CestExport.Proofs.Number.Digits

/-!
# Digits and the underscores between them

Digits of any script are read as ASCII digits, and single underscores between them
are left out.  Where the reading has a run of digits the text has one with the same
values, and every other character is kept.

    plain? (ds ++ rest) = (plain? rest).map (vs.map digit ++ ·)          (plain?_digits)
    plain? cs = some (vs.map digit ++ rest)  →
      cs = ds ++ cs' ∧ Run ds vs ∧ plain? cs' = some rest        (exists_run_of_plain?)
-/

namespace CestExport.Number

open CestExport.Text

/-! ## Algorithm -/

/-- Digits and their values; single underscores may stand between them. -/
inductive Digits : List Char → List Nat → Prop
  | last {c : Char} {v : Nat} : digitValue? c = some v → Digits [c] [v]
  | next {c : Char} {v : Nat} {cs : List Char} {vs : List Nat} :
    digitValue? c = some v → Digits cs vs → Digits (c :: cs) (v :: vs)
  | apart {c : Char} {v : Nat} {cs : List Char} {vs : List Nat} :
    digitValue? c = some v → Digits cs vs → Digits (c :: '_' :: cs) (v :: vs)

/-- Digits, or nothing. -/
inductive Run : List Char → List Nat → Prop
  | empty : Run [] []
  | digits {cs : List Char} {vs : List Nat} : Digits cs vs → Run cs vs

/-- A sign, or nothing. -/
inductive Sign : Bool → List Char → Prop
  | absent : Sign false []
  | plus : Sign false ['+']
  | minus : Sign true ['-']

/-- ASCII digits and other characters, without the separators. -/
def plain? (cs : List Char) : Option (List Char) :=
  dropSeparators? false (cs.map asciiDigit)

/-! ## ASCII digits -/

/-- The ASCII digit of a value. -/
def digit (v : Nat) : Char := Char.ofNat (0x30 + v)

theorem digit_table : ∀ v < 10, (digit v).isDigit = true ∧ digitValue? (digit v) = some v ∧
    digit v ≠ '_' ∧ (digit v).toLower ≠ 'i' ∧ (digit v).toLower ≠ 'n' := by
  decide

theorem exists_digit {c : Char} (h : c.isDigit = true) : ∃ v < 10, c = digit v := by
  simp only [Char.isDigit, Bool.and_eq_true, decide_eq_true_eq, UInt32.le_iff_toNat_le,
    ge_iff_le] at h
  have hval : c.toNat = c.val.toNat := rfl
  have hzero : '0'.val.toNat = 48 := rfl
  have hnine : '9'.val.toNat = 57 := rfl
  refine ⟨c.toNat - 48, by omega, ?_⟩
  rw [digit, show 0x30 + (c.toNat - 48) = c.toNat by omega, Char.ofNat_toNat]

theorem asciiDigit_of_some {c : Char} {v : Nat} (h : digitValue? c = some v) :
    asciiDigit c = digit v := by
  simp [asciiDigit, digit, h]

theorem asciiDigit_of_none {c : Char} (h : digitValue? c = none) : asciiDigit c = c := by
  simp [asciiDigit, h]

theorem asciiDigit_eq_digit {c : Char} {v : Nat} (hv : v < 10) (h : asciiDigit c = digit v) :
    digitValue? c = some v := by
  cases hc : digitValue? c with
  | none =>
    rw [asciiDigit_of_none hc] at h
    rw [h, (digit_table v hv).2.1] at hc
    cases hc
  | some w =>
    have hw := (digit_table w (digitValue?_lt hc)).2.1
    rw [asciiDigit_of_some hc] at h
    rw [h, (digit_table v hv).2.1] at hw
    exact hw.symm

/-- Only digits become digits; everything else stays. -/
theorem eq_of_asciiDigit {c d : Char} (hd : d.isDigit = false) (h : asciiDigit c = d) : c = d := by
  cases hc : digitValue? c with
  | none => rwa [asciiDigit_of_none hc] at h
  | some v =>
    rw [asciiDigit_of_some hc] at h
    rw [← h, (digit_table v (digitValue?_lt hc)).1] at hd
    cases hd

theorem isDigit_of_none {c : Char} (h : digitValue? c = none) : c.isDigit = false := by
  rcases Bool.eq_false_or_eq_true c.isDigit with hc | hc
  · obtain ⟨v, hv, rfl⟩ := exists_digit hc
    rw [(digit_table v hv).2.1] at h
    cases h
  · exact hc

theorem exists_values {cs : List Char} (h : ∀ c ∈ cs, c.isDigit = true) :
    ∃ vs : List Nat, (∀ v ∈ vs, v < 10) ∧ cs = vs.map digit := by
  induction cs with
  | nil => exact ⟨[], by simp, rfl⟩
  | cons c cs ih =>
    obtain ⟨v, hv, rfl⟩ := exists_digit (h c List.mem_cons_self)
    obtain ⟨vs, hvs, rfl⟩ := ih fun d hd => h d (List.mem_cons_of_mem _ hd)
    exact ⟨v :: vs, List.forall_mem_cons.2 ⟨hv, hvs⟩, rfl⟩

theorem isDigit_of_mem_map_digit {vs : List Nat} (h : ∀ v ∈ vs, v < 10) :
    ∀ c ∈ vs.map digit, c.isDigit = true := by
  intro c hc
  obtain ⟨v, hv, rfl⟩ := List.mem_map.1 hc
  exact (digit_table v (h v hv)).1

theorem digitsValue_map_digit {vs : List Nat} (h : ∀ v ∈ vs, v < 10) :
    digitsValue (vs.map digit) = placeValue vs := by
  refine digitsValue_of_values ?_
  rw [List.map_map]
  exact List.map_congr_left fun v hv => (digit_table v (h v hv)).2.1

/-! ## Separators -/

theorem dropSeparators?_cons {c : Char} (h : c ≠ '_') (afterDigit : Bool) (cs : List Char) :
    dropSeparators? afterDigit (c :: cs) = (dropSeparators? c.isDigit cs).map (c :: ·) := by
  simp [dropSeparators?, h]

theorem dropSeparators?_separator (afterDigit : Bool) (c : Char) (cs : List Char) :
    dropSeparators? afterDigit ('_' :: c :: cs) =
      if afterDigit && c.isDigit then dropSeparators? false (c :: cs) else none := by
  simp [dropSeparators?]

theorem asciiDigit_ne_separator {c : Char} (h : c ≠ '_') : asciiDigit c ≠ '_' :=
  fun hc => h (eq_of_asciiDigit rfl hc)

theorem plain?_cons {c : Char} (h : c ≠ '_') (cs : List Char) : plain? (c :: cs) =
    (dropSeparators? (asciiDigit c).isDigit (cs.map asciiDigit)).map (asciiDigit c :: ·) := by
  rw [plain?, List.map_cons, dropSeparators?_cons (asciiDigit_ne_separator h)]

theorem plain?_separator (cs : List Char) : plain? ('_' :: cs) = none := by
  have hself : asciiDigit '_' = '_' := rfl
  cases cs with
  | nil => rfl
  | cons c cs =>
    rw [plain?, List.map_cons, List.map_cons, hself, dropSeparators?_separator]
    rfl

/-- What stands before a text only matters to an underscore at its beginning. -/
theorem dropSeparators?_eq {cs : List Char} (h : cs.head? ≠ some '_') (afterDigit : Bool) :
    dropSeparators? afterDigit (cs.map asciiDigit) = plain? cs := by
  cases cs with
  | nil => rfl
  | cons c cs =>
    have hc : c ≠ '_' := fun hc => h (congrArg some hc)
    rw [plain?_cons hc, List.map_cons, dropSeparators?_cons (asciiDigit_ne_separator hc)]

theorem ne_separator_of_some {c : Char} {v : Nat} (h : digitValue? c = some v) : c ≠ '_' := by
  rintro rfl
  cases h

theorem plain?_cons_digit {c : Char} {v : Nat} {cs : List Char} (hc : digitValue? c = some v)
    (h : cs.head? ≠ some '_') : plain? (c :: cs) = (plain? cs).map (digit v :: ·) := by
  rw [plain?_cons (ne_separator_of_some hc), dropSeparators?_eq h, asciiDigit_of_some hc]

theorem plain?_cons_apart {c d : Char} {v w : Nat} (hc : digitValue? c = some v)
    (hd : digitValue? d = some w) (cs : List Char) :
    plain? (c :: '_' :: d :: cs) = (plain? (d :: cs)).map (digit v :: ·) := by
  have hself : asciiDigit '_' = '_' := rfl
  have hbefore := (digit_table v (digitValue?_lt hc)).1
  have hbehind := (digit_table w (digitValue?_lt hd)).1
  rw [plain?_cons (ne_separator_of_some hc), List.map_cons, List.map_cons, hself,
    dropSeparators?_separator, asciiDigit_of_some hc, hbefore, asciiDigit_of_some hd, hbehind,
    plain?, List.map_cons, asciiDigit_of_some hd]
  rfl

theorem plain?_cons_other {c : Char} (hc : digitValue? c = none) (h : c ≠ '_') (cs : List Char) :
    plain? (c :: cs) = (plain? cs).map (c :: ·) := by
  rw [plain?_cons h, asciiDigit_of_none hc, isDigit_of_none hc, plain?]

/-- The first character of a text that is read is kept. -/
theorem exists_cons_of_plain? {c : Char} {cs out : List Char} (h : plain? (c :: cs) = some out) :
    ∃ out', out = asciiDigit c :: out' ∧
      dropSeparators? (asciiDigit c).isDigit (cs.map asciiDigit) = some out' := by
  by_cases hc : c = '_'
  · rw [hc, plain?_separator] at h
    cases h
  · rw [plain?_cons hc] at h
    obtain ⟨out', hout, rfl⟩ := Option.map_eq_some_iff.1 h
    exact ⟨out', rfl, hout⟩

theorem exists_of_plain?_cons {cs out : List Char} {d : Char} (h : plain? cs = some (d :: out)) :
    ∃ c cs', cs = c :: cs' ∧ asciiDigit c = d ∧
      dropSeparators? d.isDigit (cs'.map asciiDigit) = some out := by
  cases cs with
  | nil => cases h
  | cons c cs =>
    obtain ⟨out', heq, hout⟩ := exists_cons_of_plain? h
    obtain ⟨rfl, rfl⟩ := List.cons.inj heq
    exact ⟨c, cs, rfl, rfl, hout⟩

theorem eq_nil_of_plain? {cs : List Char} (h : plain? cs = some []) : cs = [] := by
  cases cs with
  | nil => rfl
  | cons c cs =>
    obtain ⟨out', heq, -⟩ := exists_cons_of_plain? h
    cases heq

/-- An underscore at the beginning is left out, or there is none. -/
theorem plain?_or_separator {afterDigit : Bool} {cs out : List Char}
    (h : dropSeparators? afterDigit (cs.map asciiDigit) = some out) :
    plain? cs = some out ∨ ∃ ds, cs = '_' :: ds ∧ plain? ds = some out ∧
      ∃ d ∈ out.head?, d.isDigit = true := by
  by_cases hcs : cs.head? = some '_'
  · obtain ⟨ds, rfl⟩ : ∃ ds, cs = '_' :: ds := List.head?_eq_some_iff.1 hcs
    have hself : asciiDigit '_' = '_' := rfl
    cases ds with
    | nil => cases h
    | cons d ds =>
      rw [List.map_cons, List.map_cons, hself, dropSeparators?_separator] at h
      split at h
      next hboth =>
        obtain ⟨-, hdigit⟩ := (Bool.and_eq_true _ _).mp hboth
        have hplain : plain? (d :: ds) = some out := h
        obtain ⟨out', rfl, -⟩ := exists_cons_of_plain? hplain
        exact .inr ⟨d :: ds, rfl, hplain, asciiDigit d, rfl, hdigit⟩
      next => cases h
  · rw [dropSeparators?_eq hcs] at h
    exact .inl h

/-! ## Runs of digits -/

/-- What is no digit is kept as it stands. -/
theorem exists_of_plain? {cs out : List Char} {d : Char} (hd : d.isDigit = false)
    (h : plain? cs = some (d :: out)) : ∃ cs', cs = d :: cs' ∧ plain? cs' = some out := by
  obtain ⟨c, cs', rfl, hc, hrest⟩ := exists_of_plain?_cons h
  rw [hd] at hrest
  exact ⟨cs', by rw [eq_of_asciiDigit hd hc], hrest⟩

/-- A text that a digit does not begin. -/
def NoDigitHead (cs : List Char) : Prop := ∀ c ∈ cs.head?, c.isDigit = false

theorem noDigitHead_nil : NoDigitHead [] := by
  rintro c ⟨⟩

/-- Digits in the reading come from a run of digits in the text. -/
theorem exists_run_of_plain? {cs rest : List Char} {vs : List Nat} (hv : ∀ v ∈ vs, v < 10)
    (hrest : NoDigitHead rest) (h : plain? cs = some (vs.map digit ++ rest)) :
    ∃ ds cs', cs = ds ++ cs' ∧ Run ds vs ∧ plain? cs' = some rest := by
  induction vs generalizing cs with
  | nil => exact ⟨[], cs, rfl, .empty, h⟩
  | cons v vs ih =>
    have hlt : v < 10 := hv v List.mem_cons_self
    have hvs : ∀ w ∈ vs, w < 10 := fun w hw => hv w (List.mem_cons_of_mem v hw)
    obtain ⟨c, tail, rfl, hc, htail⟩ := exists_of_plain?_cons h
    have hvalue : digitValue? c = some v := asciiDigit_eq_digit hlt hc
    rcases plain?_or_separator htail with hplain | ⟨tail, rfl, hplain, d, hd, hdigit⟩
    · obtain ⟨ds, cs', rfl, hrun, hcs'⟩ := ih hvs hplain
      refine ⟨c :: ds, cs', rfl, .digits ?_, hcs'⟩
      cases hrun with
      | empty => exact .last hvalue
      | digits hdigits => exact .next hvalue hdigits
    · obtain ⟨ds, cs', rfl, hrun, hcs'⟩ := ih hvs hplain
      cases hrun with
      | empty =>
        -- an underscore behind the last digit would need another digit
        rw [hrest d hd] at hdigit
        cases hdigit
      | digits hdigits => exact ⟨c :: '_' :: ds, cs', rfl, .digits (.apart hvalue hdigits), hcs'⟩

theorem Digits.exists_cons {cs : List Char} {vs : List Nat} (h : Digits cs vs) :
    ∃ c v ds ws, cs = c :: ds ∧ vs = v :: ws ∧ digitValue? c = some v := by
  cases h with
  | last hc => exact ⟨_, _, _, _, rfl, rfl, hc⟩
  | next hc hdigits => exact ⟨_, _, _, _, rfl, rfl, hc⟩
  | apart hc hdigits => exact ⟨_, _, _, _, rfl, rfl, hc⟩

theorem Digits.lt {cs : List Char} {vs : List Nat} (h : Digits cs vs) : ∀ v ∈ vs, v < 10 := by
  induction h with
  | last hc => simpa using digitValue?_lt hc
  | next hc hdigits ih => exact List.forall_mem_cons.2 ⟨digitValue?_lt hc, ih⟩
  | apart hc hdigits ih => exact List.forall_mem_cons.2 ⟨digitValue?_lt hc, ih⟩

theorem Digits.ne_nil {cs : List Char} {vs : List Nat} (h : Digits cs vs) : vs ≠ [] := by
  obtain ⟨-, v, -, ws, -, rfl, -⟩ := h.exists_cons
  exact List.cons_ne_nil v ws

theorem Run.lt {cs : List Char} {vs : List Nat} (h : Run cs vs) : ∀ v ∈ vs, v < 10 := by
  cases h with
  | empty => simp
  | digits hdigits => exact hdigits.lt

/-- Digits are read as their values. -/
theorem plain?_digits {ds : List Char} {vs : List Nat} (h : Digits ds vs) {rest : List Char}
    (hrest : rest.head? ≠ some '_') :
    plain? (ds ++ rest) = (plain? rest).map (vs.map digit ++ ·) := by
  induction h with
  | last hc => exact plain?_cons_digit hc hrest
  | next hc hdigits ih =>
    obtain ⟨d, w, ds, ws, rfl, rfl, hd⟩ := hdigits.exists_cons
    have hmark : (d :: ds ++ rest).head? ≠ some '_' := by
      rintro ⟨⟩
      cases hd
    rw [List.cons_append, plain?_cons_digit hc hmark, ih, Option.map_map]
    rfl
  | apart hc hdigits ih =>
    obtain ⟨d, w, ds, ws, rfl, rfl, hd⟩ := hdigits.exists_cons
    have hnext := plain?_cons_apart hc hd (ds ++ rest)
    rw [List.cons_append, List.cons_append, List.cons_append, hnext, ← List.cons_append, ih,
      Option.map_map]
    rfl

theorem plain?_run {ds : List Char} {vs : List Nat} (h : Run ds vs) {rest : List Char}
    (hrest : rest.head? ≠ some '_') :
    plain? (ds ++ rest) = (plain? rest).map (vs.map digit ++ ·) := by
  cases h with
  | empty => simp
  | digits hdigits => exact plain?_digits hdigits hrest

theorem plain?_sign {negative : Bool} {sign : List Char} (h : Sign negative sign)
    (cs : List Char) : plain? (sign ++ cs) = (plain? cs).map (sign ++ ·) := by
  cases h with
  | absent => simp
  | plus => exact plain?_cons_other rfl (by decide) cs
  | minus => exact plain?_cons_other rfl (by decide) cs

/-! ## Signs -/

theorem sign_splitSign (cs : List Char) :
    ∃ sign, Sign (splitSign cs).1 sign ∧ cs = sign ++ (splitSign cs).2 := by
  unfold splitSign
  split
  · exact ⟨['-'], .minus, rfl⟩
  · exact ⟨['+'], .plus, rfl⟩
  · exact ⟨[], .absent, rfl⟩

theorem exists_sign_of_plain? {negative : Bool} {sign cs out : List Char}
    (h : Sign negative sign) (hplain : plain? cs = some (sign ++ out)) :
    ∃ cs', cs = sign ++ cs' ∧ plain? cs' = some out := by
  cases h with
  | absent => exact ⟨cs, rfl, hplain⟩
  | plus => exact exists_of_plain? rfl hplain
  | minus => exact exists_of_plain? rfl hplain

/-! ## Blanks -/

theorem Digits.isNumberBlank {cs : List Char} {vs : List Nat} (h : Digits cs vs) :
    ∀ c ∈ cs, isNumberBlank c = false := by
  induction h with
  | last hc => simpa using isNumberBlank_of_isDigit (isDigit_of_digitValue? hc)
  | next hc hdigits ih =>
    exact List.forall_mem_cons.2 ⟨isNumberBlank_of_isDigit (isDigit_of_digitValue? hc), ih⟩
  | apart hc hdigits ih =>
    exact List.forall_mem_cons.2 ⟨isNumberBlank_of_isDigit (isDigit_of_digitValue? hc),
      List.forall_mem_cons.2 ⟨rfl, ih⟩⟩

theorem Run.isNumberBlank {cs : List Char} {vs : List Nat} (h : Run cs vs) :
    ∀ c ∈ cs, isNumberBlank c = false := by
  cases h with
  | empty => simp
  | digits hdigits => exact hdigits.isNumberBlank

theorem Sign.isNumberBlank {negative : Bool} {sign : List Char} (h : Sign negative sign) :
    ∀ c ∈ sign, isNumberBlank c = false := by
  cases h with
  | absent => simp
  | plus => simp [Text.isNumberBlank, isBlank]
  | minus => simp [Text.isNumberBlank, isBlank]

end CestExport.Number
