import CestExport.Proofs.Number.Separator
import Mathlib.Algebra.Order.Field.Rat

/-!
# Written numbers

The grammar of the texts that write a number: a sign, digits of any script with an
optional point and exponent, single underscores between digits, and blanks around
the whole.  Reading such a text rounds the number it writes once; the only other
texts read are the words for infinity and for what is no number.

    written? cs = some (negative, m, e)  ↔  Numeral cs negative m e         (written?_eq_some)
    Numeral s negative m e  →
      readDecimal? s = some (ofDecimal negative m e)             (readDecimal?_of_numeral)
-/

namespace CestExport.Number

open CestExport.Text

/-! ## Grammar -/

/-- Digits with an optional point: the values before it, and behind it. -/
inductive Mantissa : List Char → List Nat → List Nat → Prop
  | whole {cs : List Char} {vs : List Nat} : Digits cs vs → Mantissa cs vs []
  | pointed {cs ds : List Char} {vs ws : List Nat} :
    Run cs vs → Run ds ws → vs ++ ws ≠ [] → Mantissa (cs ++ '.' :: ds) vs ws

/-- A power of ten behind a mark, or nothing. -/
inductive Exponent : List Char → Int → Prop
  | absent : Exponent [] 0
  | marked {c : Char} {negative : Bool} {sign cs : List Char} {vs : List Nat} :
    c = 'e' ∨ c = 'E' → Sign negative sign → Digits cs vs →
    Exponent (c :: (sign ++ cs)) (if negative then -(placeValue vs : Int) else placeValue vs)

/-- A text for `m · 10 ^ e`. -/
inductive Unsigned : List Char → Nat → Int → Prop
  | intro {cs ds : List Char} {vs ws : List Nat} {x : Int} : Mantissa cs vs ws → Exponent ds x →
    Unsigned (cs ++ ds) (placeValue (vs ++ ws)) (x - ws.length)

/-- A text for `± m · 10 ^ e`. -/
inductive Numeral : List Char → Bool → Nat → Int → Prop
  | intro {front back sign cs : List Char} {negative : Bool} {m : Nat} {e : Int} :
    (∀ c ∈ front, isNumberBlank c = true) → Sign negative sign → Unsigned cs m e →
    (∀ c ∈ back, isNumberBlank c = true) → Numeral (front ++ (sign ++ cs) ++ back) negative m e

/-- The text writes the number `q`. -/
def Denotes (s : String) (q : ℚ) : Prop :=
  ∃ negative m e, Numeral s.toList negative m e ∧
    q = (if negative then -1 else 1) * ((m : ℚ) * 10 ^ e)

/-! ## Exact reading -/

/-- The mantissa and the power of ten that digits with an optional point and exponent write. -/
def decimal? (cs : List Char) : Option (Nat × Int) :=
  let front := cs.takeWhile Char.isDigit
  let rest := cs.dropWhile Char.isDigit
  let (back, rest) := match rest with
    | '.' :: r => (r.takeWhile Char.isDigit, r.dropWhile Char.isDigit)
    | r => ([], r)
  if front.isEmpty && back.isEmpty then none
  else (exponent? rest).map fun e => (digitsValue (front ++ back), e - back.length)

/-- The sign, the mantissa and the power of ten that a text writes. -/
def written? (cs : List Char) : Option (Bool × Nat × Int) :=
  (plain? (trimChars isNumberBlank cs)).bind fun out =>
    (decimal? (splitSign out).2).map fun p => ((splitSign out).1, p)

/-! ## Signs and exponents -/

/-- A digit or a point first. -/
def AtMantissa (cs : List Char) : Prop := ∃ c ∈ cs.head?, c.isDigit = true ∨ c = '.'

theorem atMantissa_digits {vs : List Nat} (hv : ∀ v ∈ vs, v < 10) (hne : vs ≠ [])
    (rest : List Char) : AtMantissa (vs.map digit ++ rest) := by
  cases vs with
  | nil => exact absurd rfl hne
  | cons v vs => exact ⟨digit v, rfl, .inl (digit_table v (hv v List.mem_cons_self)).1⟩

theorem splitSign_append {negative : Bool} {sign cs : List Char} (h : Sign negative sign)
    (hcs : AtMantissa cs) : splitSign (sign ++ cs) = (negative, cs) := by
  cases h with
  | absent =>
    obtain ⟨c, hc, hfirst⟩ := hcs
    obtain ⟨ds, rfl⟩ : ∃ ds, cs = c :: ds := List.head?_eq_some_iff.1 hc
    rw [List.nil_append, splitSign]
    · rintro ds ⟨⟩
      rcases hfirst with h | h
      · cases h
      · cases h
    · rintro ds ⟨⟩
      rcases hfirst with h | h
      · cases h
      · cases h
  | plus => rfl
  | minus => rfl

theorem exponent?_cons (c : Char) (cs : List Char) : exponent? (c :: cs) =
    if (c == 'e' || c == 'E') && !(splitSign cs).2.isEmpty && (splitSign cs).2.all Char.isDigit then
      some (if (splitSign cs).1 then -(digitsValue (splitSign cs).2 : Int)
        else digitsValue (splitSign cs).2)
    else none := rfl

/-- Nothing, or the mark of an exponent first. -/
def AtExponent (cs : List Char) : Prop := ∀ c ∈ cs.head?, c = 'e' ∨ c = 'E'

theorem AtExponent.head?_ne_point {cs : List Char} (h : AtExponent cs) :
    cs.head? ≠ some '.' := by
  intro hcs
  rcases h '.' hcs with hc | hc
  · cases hc
  · cases hc

theorem AtExponent.noDigitHead {cs : List Char} (h : AtExponent cs) : NoDigitHead cs := by
  intro c hc
  rcases h c hc with rfl | rfl
  · rfl
  · rfl

/-- The parts of an exponent without separators. -/
theorem exists_of_exponent? {c : Char} {cs : List Char} {x : Int}
    (h : exponent? (c :: cs) = some x) : (c = 'e' ∨ c = 'E') ∧
      ∃ negative sign vs, Sign negative sign ∧ vs ≠ [] ∧ (∀ v ∈ vs, v < 10) ∧
        cs = sign ++ vs.map digit ∧
        x = if negative then -(placeValue vs : Int) else placeValue vs := by
  rw [exponent?_cons] at h
  split at h
  next hmark =>
    simp only [Bool.and_eq_true, Bool.or_eq_true, beq_iff_eq, Bool.not_eq_true',
      List.isEmpty_eq_false_iff, List.all_eq_true] at hmark
    obtain ⟨⟨hc, hne⟩, hdigits⟩ := hmark
    obtain ⟨sign, hsign, hcs⟩ := sign_splitSign cs
    obtain ⟨vs, hvs, hds⟩ := exists_values hdigits
    rw [hds] at hcs hne h
    rw [digitsValue_map_digit hvs] at h
    exact ⟨hc, _, sign, vs, hsign, by simpa using hne, hvs, hcs, (Option.some.inj h).symm⟩
  next => cases h

theorem atExponent_of_exponent? {cs : List Char} {x : Int} (h : exponent? cs = some x) :
    AtExponent cs := by
  cases cs with
  | nil => simp [AtExponent]
  | cons c cs =>
    rintro d ⟨⟩
    exact (exists_of_exponent? h).1

theorem isDigit_of_mark {c : Char} (h : c = 'e' ∨ c = 'E') : c.isDigit = false := by
  rcases h with rfl | rfl
  · rfl
  · rfl

/-- An exponent is read where the text has one. -/
theorem exponent_of_plain? {cs out : List Char} {x : Int} (hplain : plain? cs = some out)
    (h : exponent? out = some x) : Exponent cs x := by
  cases out with
  | nil =>
    rw [eq_nil_of_plain? hplain]
    cases h
    exact .absent
  | cons c out =>
    obtain ⟨hc, negative, sign, vs, hsign, hne, hvs, rfl, rfl⟩ := exists_of_exponent? h
    obtain ⟨signed, rfl, hsigned⟩ := exists_of_plain? (isDigit_of_mark hc) hplain
    obtain ⟨run, rfl, hrun⟩ := exists_sign_of_plain? hsign hsigned
    rw [← List.append_nil (vs.map digit)] at hrun
    obtain ⟨ds, rest, rfl, hds, hrest⟩ := exists_run_of_plain? hvs noDigitHead_nil hrun
    rw [eq_nil_of_plain? hrest, List.append_nil]
    cases hds with
    | empty => exact absurd rfl hne
    | digits hdigits => exact .marked hc hsign hdigits

theorem Exponent.head?_ne {cs : List Char} {x : Int} (h : Exponent cs x) :
    cs.head? ≠ some '_' := by
  cases h with
  | absent => simp
  | marked hc _ _ =>
    rcases hc with rfl | rfl
    · simp
    · simp

theorem Exponent.exists_plain? {cs : List Char} {x : Int} (h : Exponent cs x) :
    ∃ out, plain? cs = some out ∧ exponent? out = some x := by
  cases h with
  | absent => exact ⟨[], rfl, rfl⟩
  | @marked c negative sign ds vs hc hsign hdigits =>
    have hother : digitValue? c = none ∧ c ≠ '_' := by
      rcases hc with rfl | rfl
      · exact ⟨rfl, by decide⟩
      · exact ⟨rfl, by decide⟩
    have hds : plain? ds = some (vs.map digit) := by
      rw [← List.append_nil ds, plain?_digits hdigits (by simp)]
      simp [plain?, dropSeparators?]
    refine ⟨c :: (sign ++ vs.map digit), ?_, ?_⟩
    · rw [plain?_cons_other hother.1 hother.2, plain?_sign hsign, hds]
      rfl
    · have hne : vs ≠ [] := hdigits.ne_nil
      have hsplit : splitSign (sign ++ vs.map digit) = (negative, vs.map digit) := by
        refine splitSign_append hsign ?_
        rw [← List.append_nil (vs.map digit)]
        exact atMantissa_digits hdigits.lt hne []
      have hall : (vs.map digit).all Char.isDigit = true :=
        List.all_eq_true.2 (isDigit_of_mem_map_digit hdigits.lt)
      have hempty : (vs.map digit).isEmpty = false := by simpa using hne
      have hmark : (c == 'e' || c == 'E') = true := by simpa using hc
      rw [exponent?_cons, hsplit, hall, hempty, hmark, digitsValue_map_digit hdigits.lt]
      rfl

/-! ## Digits, point and exponent -/

theorem takeWhile_digits {vs : List Nat} (hv : ∀ v ∈ vs, v < 10) {rest : List Char}
    (hrest : NoDigitHead rest) :
    (vs.map digit ++ rest).takeWhile Char.isDigit = vs.map digit := by
  have hnone : rest.takeWhile Char.isDigit = [] := by
    cases rest with
    | nil => rfl
    | cons c rest => exact List.takeWhile_cons_of_neg (by simp [hrest c rfl])
  rw [List.takeWhile_append_of_pos (isDigit_of_mem_map_digit hv), hnone, List.append_nil]

theorem dropWhile_digits {vs : List Nat} (hv : ∀ v ∈ vs, v < 10) {rest : List Char}
    (hrest : NoDigitHead rest) : (vs.map digit ++ rest).dropWhile Char.isDigit = rest := by
  rw [List.dropWhile_append_of_pos (isDigit_of_mem_map_digit hv)]
  cases rest with
  | nil => rfl
  | cons c rest => exact List.dropWhile_cons_of_neg (by simp [hrest c rfl])

/-- Every text is a run of digits with something else behind it. -/
theorem exists_digits (cs : List Char) : ∃ (vs : List Nat) (rest : List Char),
    (∀ v ∈ vs, v < 10) ∧ NoDigitHead rest ∧ cs = vs.map digit ++ rest := by
  induction cs with
  | nil => exact ⟨[], [], by simp, noDigitHead_nil, rfl⟩
  | cons c cs ih =>
    by_cases hc : c.isDigit = true
    · obtain ⟨v, hv, rfl⟩ := exists_digit hc
      obtain ⟨vs, rest, hvs, hrest, rfl⟩ := ih
      exact ⟨v :: vs, rest, List.forall_mem_cons.2 ⟨hv, hvs⟩, hrest, rfl⟩
    · refine ⟨[], c :: cs, by simp, ?_, rfl⟩
      rintro d ⟨⟩
      simpa using hc

section

variable {vs ws : List Nat} (hv : ∀ v ∈ vs, v < 10) {rest : List Char}
include hv

theorem decimal?_whole (hrest : NoDigitHead rest) (hpoint : rest.head? ≠ some '.') :
    decimal? (vs.map digit ++ rest) =
      if vs = [] then none else (exponent? rest).map fun x => (placeValue vs, x) := by
  simp only [decimal?, takeWhile_digits hv hrest, dropWhile_digits hv hrest]
  split
  next r => exact absurd rfl hpoint
  next => simp [digitsValue_map_digit hv]

theorem decimal?_pointed (hw : ∀ w ∈ ws, w < 10) (hrest : NoDigitHead rest) :
    decimal? (vs.map digit ++ '.' :: (ws.map digit ++ rest)) =
      if vs ++ ws = [] then none
      else (exponent? rest).map fun x => (placeValue (vs ++ ws), x - (ws.length : Int)) := by
  have hpoint : NoDigitHead ('.' :: (ws.map digit ++ rest)) := by
    rintro c ⟨⟩
    rfl
  have hboth : ∀ v ∈ vs ++ ws, v < 10 := List.forall_mem_append.2 ⟨hv, hw⟩
  have hvalue : digitsValue (vs.map digit ++ ws.map digit) = placeValue (vs ++ ws) := by
    rw [← List.map_append, digitsValue_map_digit hboth]
  simp only [decimal?, takeWhile_digits hv hpoint, dropWhile_digits hv hpoint,
    takeWhile_digits hw hrest, dropWhile_digits hw hrest, hvalue]
  simp

end

/-- A decimal number begins with a digit or a point. -/
theorem atMantissa_of_decimal? {cs : List Char} {p : Nat × Int} (h : decimal? cs = some p) :
    AtMantissa cs := by
  obtain ⟨vs, rest, hv, hrest, rfl⟩ := exists_digits cs
  cases vs with
  | nil =>
    by_cases hpoint : rest.head? = some '.'
    · exact ⟨'.', hpoint, .inr rfl⟩
    · rw [decimal?_whole hv hrest hpoint, if_pos rfl] at h
      cases h
  | cons v vs => exact atMantissa_digits hv (List.cons_ne_nil v vs) rest

/-- The decimal number that is read is one that the text writes. -/
theorem unsigned_of_decimal? {cs out : List Char} {m : Nat} {e : Int}
    (hplain : plain? cs = some out) (h : decimal? out = some (m, e)) : Unsigned cs m e := by
  obtain ⟨vs, rest, hv, hrest, rfl⟩ := exists_digits out
  obtain ⟨front, behind, rfl, hfront, hbehind⟩ := exists_run_of_plain? hv hrest hplain
  by_cases hpoint : rest.head? = some '.'
  · obtain ⟨r, rfl⟩ : ∃ r, rest = '.' :: r := List.head?_eq_some_iff.1 hpoint
    obtain ⟨ws, tail, hw, htail, rfl⟩ := exists_digits r
    rw [decimal?_pointed hv hw htail] at h
    split at h
    next => cases h
    next hne =>
      obtain ⟨x, hx, heq⟩ := Option.map_eq_some_iff.1 h
      cases heq
      obtain ⟨fraction, rfl, hfraction⟩ := exists_of_plain? rfl hbehind
      obtain ⟨ds, mark, rfl, hds, hmark⟩ := exists_run_of_plain? hw htail hfraction
      have hunsigned := Unsigned.intro (.pointed hfront hds hne) (exponent_of_plain? hmark hx)
      rwa [List.append_assoc, List.cons_append] at hunsigned
  · rw [decimal?_whole hv hrest hpoint] at h
    split at h
    next => cases h
    next hne =>
      obtain ⟨x, hx, heq⟩ := Option.map_eq_some_iff.1 h
      cases heq
      cases hfront with
      | empty => exact absurd rfl hne
      | digits hdigits =>
        have hunsigned := Unsigned.intro (.whole hdigits) (exponent_of_plain? hbehind hx)
        simpa using hunsigned

/-- A decimal number that a text writes is read. -/
theorem Unsigned.exists_plain? {cs : List Char} {m : Nat} {e : Int} (h : Unsigned cs m e) :
    ∃ out, plain? cs = some out ∧ decimal? out = some (m, e) := by
  cases h with
  | @intro digits mark vs ws x hmantissa hexponent =>
    obtain ⟨tail, htail, hx⟩ := hexponent.exists_plain?
    have hstop := atExponent_of_exponent? hx
    cases hmantissa with
    | whole hdigits =>
      have hne : vs ≠ [] := hdigits.ne_nil
      refine ⟨vs.map digit ++ tail, ?_, ?_⟩
      · rw [plain?_digits hdigits hexponent.head?_ne, htail]
        rfl
      · rw [decimal?_whole hdigits.lt hstop.noDigitHead hstop.head?_ne_point, if_neg hne, hx]
        simp
    | pointed hfront hback hne =>
      refine ⟨vs.map digit ++ '.' :: (ws.map digit ++ tail), ?_, ?_⟩
      · rw [List.append_assoc, plain?_run hfront (by simp), List.cons_append,
          plain?_cons_other rfl (by decide), plain?_run hback hexponent.head?_ne, htail]
        rfl
      · rw [decimal?_pointed hfront.lt hback.lt hstop.noDigitHead, if_neg hne, hx]
        rfl

/-! ## Whole texts -/

/-- No character of a number is a blank. -/
theorem Unsigned.isNumberBlank {cs : List Char} {m : Nat} {e : Int} (h : Unsigned cs m e) :
    ∀ c ∈ cs, isNumberBlank c = false := by
  cases h with
  | intro hmantissa hexponent =>
    refine List.forall_mem_append.2 ⟨?_, ?_⟩
    · cases hmantissa with
      | whole hdigits => exact hdigits.isNumberBlank
      | pointed hfront hback hne =>
        exact List.forall_mem_append.2 ⟨hfront.isNumberBlank,
          List.forall_mem_cons.2 ⟨rfl, hback.isNumberBlank⟩⟩
    · cases hexponent with
      | absent => simp
      | marked hc hsign hdigits =>
        refine List.forall_mem_cons.2 ⟨?_, List.forall_mem_append.2
          ⟨hsign.isNumberBlank, hdigits.isNumberBlank⟩⟩
        rcases hc with rfl | rfl
        · rfl
        · rfl

/-- Exactly the numerals are read, each as the number that it writes. -/
theorem written?_eq_some {cs : List Char} {negative : Bool} {m : Nat} {e : Int} :
    written? cs = some (negative, m, e) ↔ Numeral cs negative m e := by
  constructor
  · intro h
    obtain ⟨out, hout, h⟩ := Option.bind_eq_some_iff.1 h
    obtain ⟨⟨m', e'⟩, hp, heq⟩ := Option.map_eq_some_iff.1 h
    cases heq
    obtain ⟨sign, hsign, hsplit⟩ := sign_splitSign out
    rw [hsplit] at hout
    obtain ⟨cs', hcs', hplain⟩ := exists_sign_of_plain? hsign hout
    obtain ⟨front, back, hcs, hfront, hback⟩ := trimChars_append Text.isNumberBlank cs
    rw [hcs, hcs']
    exact .intro hfront hsign (unsigned_of_decimal? hplain hp) hback
  · intro h
    cases h with
    | intro hfront hsign hunsigned hback =>
      have hbody := List.forall_mem_append.2 ⟨hsign.isNumberBlank, hunsigned.isNumberBlank⟩
      obtain ⟨out, hplain, hout⟩ := hunsigned.exists_plain?
      have hsplit := splitSign_append hsign (atMantissa_of_decimal? hout)
      rw [written?, trimChars_between hfront hbody hback, plain?_sign hsign, hplain]
      simp only [Option.map_some, Option.bind_some, hsplit, hout]

/-! ## Rounded reading -/

theorem positional?_eq (negative : Bool) (cs : List Char) : positional? negative cs =
    (decimal? cs).map fun p => Binary64.ofDecimal negative p.1 p.2 := by
  simp only [positional?, decimal?,
    apply_ite (Option.map fun p : Nat × Int => Binary64.ofDecimal negative p.1 p.2),
    Option.map_none, Option.map_map]
  rfl

/-- The letters of a text without separators, behind its sign. -/
def word (out : List Char) : String := String.ofList ((splitSign out).2.map Char.toLower)

theorem readDecimal?_of_plain? {s : String} {out : List Char}
    (h : plain? (trimChars isNumberBlank s.toList) = some out) : readDecimal? s =
      if word out = "inf" || word out = "infinity" then some (.infinite (splitSign out).1)
      else if word out = "nan" then some .nan
      else positional? (splitSign out).1 (splitSign out).2 := by
  have hplain : dropSeparators? false ((trimChars isNumberBlank s.toList).map asciiDigit) =
      some out := h
  simp only [readDecimal?, hplain]
  rfl

/-- No word begins with a digit or a point. -/
theorem word_ne {out : List Char} {w : String} (h : AtMantissa (splitSign out).2)
    (hw : w.toList.head? = some 'i' ∨ w.toList.head? = some 'n') : word out ≠ w := by
  rintro rfl
  obtain ⟨c, hc, hfirst⟩ := h
  have hlower : c.toLower ≠ 'i' ∧ c.toLower ≠ 'n' := by
    rcases hfirst with hdigit | rfl
    · obtain ⟨v, hv, rfl⟩ := exists_digit hdigit
      exact (digit_table v hv).2.2.2
    · exact ⟨by decide, by decide⟩
  have hhead : (word out).toList.head? = some c.toLower := by
    rw [word, String.toList_ofList, List.head?_map, hc]
    rfl
  rw [hhead] at hw
  simp [hlower] at hw

/-- A numeral is read as the number nearest to the one that it writes. -/
theorem readDecimal?_of_numeral {s : String} {negative : Bool} {m : Nat} {e : Int}
    (h : Numeral s.toList negative m e) :
    readDecimal? s = some (Binary64.ofDecimal negative m e) := by
  obtain ⟨out, hout, hdecimal⟩ := Option.bind_eq_some_iff.1 (written?_eq_some.2 h)
  obtain ⟨p, hp, heq⟩ := Option.map_eq_some_iff.1 hdecimal
  have hfirst := atMantissa_of_decimal? hp
  have hinf : word out ≠ "inf" := word_ne hfirst (.inl rfl)
  have hinfinity : word out ≠ "infinity" := word_ne hfirst (.inl rfl)
  have hnan : word out ≠ "nan" := word_ne hfirst (.inr rfl)
  rw [readDecimal?_of_plain? hout, positional?_eq, hp]
  cases heq
  simp [hinf, hinfinity, hnan]

/-- Whatever is read as a finite number is a numeral. -/
theorem numeral_of_readDecimal? {s : String} {x : Binary64} (h : readDecimal? s = some x)
    (hfinite : x.truncate?.isSome = true) : ∃ negative m e, Numeral s.toList negative m e := by
  cases hplain : plain? (trimChars isNumberBlank s.toList) with
  | none =>
    have hnone : dropSeparators? false ((trimChars isNumberBlank s.toList).map asciiDigit) =
        none := hplain
    simp only [readDecimal?, hnone] at h
    cases h
  | some out =>
    rw [readDecimal?_of_plain? hplain] at h
    split at h
    next =>
      cases h
      cases hfinite
    next =>
      split at h
      next =>
        cases h
        cases hfinite
      next =>
        rw [positional?_eq] at h
        obtain ⟨p, hp, -⟩ := Option.map_eq_some_iff.1 h
        refine ⟨(splitSign out).1, p.1, p.2, written?_eq_some.1 ?_⟩
        rw [written?, hplain, Option.bind_some, hp]
        rfl

theorem Denotes.unique {s : String} {q r : ℚ} (hq : Denotes s q) (hr : Denotes s r) : q = r := by
  obtain ⟨negative, m, e, hnumeral, rfl⟩ := hq
  obtain ⟨negative', m', e', hnumeral', rfl⟩ := hr
  have heq := (written?_eq_some.2 hnumeral).symm.trans (written?_eq_some.2 hnumeral')
  cases heq
  rfl

end CestExport.Number
