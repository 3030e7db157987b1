import CestExport.Number.Whole
import Mathlib.Data.List.Induction
import Mathlib.Data.List.TakeWhile
import Mathlib.Data.Nat.Digits.Defs

/-!
# Places and values of digits

Decimal digits of any script are read as the number in whose places they stand, and a
whole number is shown by digits that no other number has.  No blank looks like a digit.

    digitsValue cs = placeValue (cs.filterMap digitValue?)              (digitsValue_eq)
    readWhole of at most 4300 decimal digits, blanks around them,
      is their place value                                        (readWhole_of_trimmed)
    decimal i = decimal j  →  i = j                                        (decimal_inj)
-/

namespace CestExport.Text

/-! ## Digits and blanks -/

/-- The blank characters. -/
def blankCodes : List Nat :=
  [0x09, 0x0A, 0x0B, 0x0C, 0x0D, 0x1C, 0x1D, 0x1E, 0x1F, 0x20, 0x85, 0xA0, 0x1680, 0x2000, 0x2001,
    0x2002, 0x2003, 0x2004, 0x2005, 0x2006, 0x2007, 0x2008, 0x2009, 0x200A, 0x2028, 0x2029, 0x202F,
    0x205F, 0x3000]

theorem mem_blankCodes {c : Char} (h : isBlank c = true) : c.toNat ∈ blankCodes := by
  simp only [isBlank, Bool.or_eq_true, Bool.and_eq_true, decide_eq_true_eq, beq_iff_eq] at h
  simp only [blankCodes, List.mem_cons, List.not_mem_nil]
  omega

theorem isDigit_of_isBlank {c : Char} (h : isBlank c = true) : isDigit c = false := by
  have hnone : ∀ n ∈ blankCodes,
      (((digitZeros.find? fun z => z ≤ n && n < z + 10).map (n - ·)).isSome ||
        looseDigits.any fun r => r.1 ≤ n && n ≤ r.2) = false := by decide
  exact hnone c.toNat (mem_blankCodes h)

theorem isNumberBlank_of_isDigit {c : Char} (h : isDigit c = true) : isNumberBlank c = false := by
  cases hb : isBlank c with
  | false => simp [isNumberBlank, hb]
  | true =>
    rw [isDigit_of_isBlank hb] at h
    cases h

theorem dropWhile_eq_self {p : Char → Bool} {cs : List Char} (h : ∀ c ∈ cs, p c = false) :
    cs.dropWhile p = cs := by
  cases cs with
  | nil => rfl
  | cons c cs => rw [List.dropWhile_cons_of_neg (by simp [h c List.mem_cons_self])]

/-- What stands between blanks is what trimming leaves. -/
theorem trimChars_between {p : Char → Bool} {front body back : List Char}
    (hfront : ∀ c ∈ front, p c = true) (hbody : ∀ c ∈ body, p c = false)
    (hback : ∀ c ∈ back, p c = true) : trimChars p (front ++ body ++ back) = body := by
  rw [trimChars, List.append_assoc, List.dropWhile_append_of_pos hfront]
  cases body with
  | nil =>
    rw [List.nil_append, List.dropWhile_eq_nil_iff.2 hback]
    rfl
  | cons b bs =>
    have hfirst : (b :: bs ++ back).dropWhile p = b :: bs ++ back :=
      List.dropWhile_cons_of_neg (by simp [hbody b List.mem_cons_self])
    rw [hfirst, List.reverse_append,
      List.dropWhile_append_of_pos fun c hc => hback c (List.mem_reverse.1 hc),
      dropWhile_eq_self fun c hc => hbody c (List.mem_reverse.1 hc), List.reverse_reverse]

/-! ## Pieces -/

theorem splitChars_of_not_mem {c : Char} {cs : List Char} (h : c ∉ cs) :
    splitChars (· == c) cs = [cs] := by
  induction cs with
  | nil => rfl
  | cons d ds ih =>
    obtain ⟨hd, hds⟩ := not_or.1 (mt List.mem_cons.2 h)
    have hother : (d == c) = false := by simpa using Ne.symm hd
    rw [splitChars, ih hds]
    simp [hother]

end CestExport.Text

namespace CestExport.Number

open CestExport.Text

/-! ## Places -/

/-- The number with given decimal digits, the highest first. -/
def placeValue (vs : List Nat) : Nat := Nat.ofDigits 10 vs.reverse

theorem placeValue_concat (vs : List Nat) (v : Nat) :
    placeValue (vs ++ [v]) = 10 * placeValue vs + v := by
  rw [placeValue, List.reverse_append, List.reverse_singleton, List.singleton_append,
    Nat.ofDigits_cons, placeValue, Nat.add_comm]

theorem placeValue_append (vs ws : List Nat) :
    placeValue (vs ++ ws) = placeValue vs * 10 ^ ws.length + placeValue ws := by
  rw [placeValue, List.reverse_append, Nat.ofDigits_append, List.length_reverse, placeValue,
    placeValue, Nat.add_comm, Nat.mul_comm]

theorem placeValue_zeros (k : Nat) : placeValue (List.replicate k 0) = 0 := by
  rw [placeValue, List.reverse_replicate, Nat.ofDigits_replicate_zero]

theorem digitsValue_eq (cs : List Char) :
    digitsValue cs = placeValue (cs.filterMap digitValue?) := by
  induction cs using List.reverseRecOn with
  | nil => rfl
  | append_singleton cs c ih =>
    cases hc : digitValue? c with
    | none =>
      have hstep : digitsValue (cs ++ [c]) = digitsValue cs := by
        simp [digitsValue, List.foldl_append, hc]
      have hlast : [c].filterMap digitValue? = [] := by simp [hc]
      rw [hstep, List.filterMap_append, hlast, List.append_nil, ih]
    | some v =>
      have hstep : digitsValue (cs ++ [c]) = 10 * digitsValue cs + v := by
        simp [digitsValue, List.foldl_append, hc]
      have hlast : [c].filterMap digitValue? = [v] := by simp [hc]
      rw [hstep, List.filterMap_append, hlast, placeValue_concat, ih]

theorem isSome_of_values {cs : List Char} {vs : List Nat} (h : cs.map digitValue? = vs.map some) :
    ∀ c ∈ cs, (digitValue? c).isSome = true := by
  intro c hc
  have hmem : digitValue? c ∈ vs.map some := h ▸ List.mem_map_of_mem hc
  obtain ⟨v, -, hv⟩ := List.mem_map.1 hmem
  rw [← hv]
  rfl

theorem digitsValue_of_values {cs : List Char} {vs : List Nat}
    (h : cs.map digitValue? = vs.map some) : digitsValue cs = placeValue vs := by
  have hlist : cs.filterMap digitValue? = vs := by
    calc cs.filterMap digitValue?
      _ = (cs.map digitValue?).filterMap id := by rw [List.filterMap_map]; rfl
      _ = vs := by rw [h, List.filterMap_map]; exact List.filterMap_some
  rw [digitsValue_eq, hlist]

/-! ## Shown numbers -/

theorem toList_decimal_ofNat (m : Nat) : (decimal (.ofNat m)).toList = Nat.toDigits 10 m :=
  Nat.toList_repr

theorem toList_decimal_negSucc (m : Nat) :
    (decimal (.negSucc m)).toList = '-' :: Nat.toDigits 10 (m + 1) := by
  have h : decimal (.negSucc m) = "-" ++ (m + 1).repr := rfl
  rw [h, String.toList_append, Nat.toList_repr]
  rfl

theorem toDigits_inj {m n : Nat} (h : Nat.toDigits 10 m = Nat.toDigits 10 n) : m = n := by
  rw [← Nat.ofDigitChars_ten_toDigits (n := m), h, Nat.ofDigitChars_ten_toDigits]

theorem toDigits_ne_negative (m : Nat) (cs : List Char) : Nat.toDigits 10 m ≠ '-' :: cs := by
  intro h
  have hmem : '-' ∈ Nat.toDigits 10 m := h ▸ List.mem_cons_self
  have hdigit := Nat.isDigit_of_mem_toDigits (by decide) (by decide) hmem
  cases hdigit

theorem decimal_inj {i j : Int} (h : decimal i = decimal j) : i = j := by
  have hlist : (decimal i).toList = (decimal j).toList := congrArg String.toList h
  cases i with
  | ofNat m =>
    cases j with
    | ofNat n =>
      rw [toList_decimal_ofNat, toList_decimal_ofNat] at hlist
      rw [toDigits_inj hlist]
    | negSucc n =>
      rw [toList_decimal_ofNat, toList_decimal_negSucc] at hlist
      exact absurd hlist (toDigits_ne_negative _ _)
  | negSucc m =>
    cases j with
    | ofNat n =>
      rw [toList_decimal_ofNat, toList_decimal_negSucc] at hlist
      exact absurd hlist.symm (toDigits_ne_negative _ _)
    | negSucc n =>
      rw [toList_decimal_negSucc, toList_decimal_negSucc] at hlist
      rw [Nat.succ.inj (toDigits_inj (List.cons.inj hlist).2)]

/-! ## Whole numbers of digits -/

theorem isDigits_iff {s : String} :
    isDigits s = true ↔ s.toList ≠ [] ∧ ∀ c ∈ s.toList, isDigit c = true := by
  simp [isDigits]

theorem isDigits_of_values {s : String} {vs : List Nat} (hne : vs ≠ [])
    (h : s.toList.map digitValue? = vs.map some) : isDigits s = true := by
  refine isDigits_iff.2 ⟨?_, fun c hc => ?_⟩
  · intro hnil
    rw [hnil] at h
    exact hne (List.map_eq_nil_iff.1 h.symm)
  · obtain ⟨v, hv⟩ := Option.isSome_iff_exists.1 (isSome_of_values h c hc)
    exact isDigit_of_digitValue? hv

theorem exists_values_of_isSome {cs : List Char} (hne : cs ≠ [])
    (hsome : ∀ c ∈ cs, (digitValue? c).isSome = true) :
    ∃ vs : List Nat, vs ≠ [] ∧ cs.map digitValue? = vs.map some := by
  refine ⟨cs.map fun c => (digitValue? c).getD 0, by simpa using hne, ?_⟩
  rw [List.map_map]
  refine List.map_congr_left fun c hc => ?_
  obtain ⟨v, hv⟩ := Option.isSome_iff_exists.1 (hsome c hc)
  simp [hv]

section

variable {cs : List Char} (hdigits : ∀ c ∈ cs, isDigit c = true)
include hdigits

theorem not_mem_of_isDigit {d : Char} (hd : isDigit d = false) : d ∉ cs := by
  intro hmem
  rw [hdigits d hmem] at hd
  cases hd

/-- Digits have no sign in front of them. -/
theorem splitSign_of_isDigit : splitSign cs = (false, cs) := by
  rw [splitSign]
  · rintro ds rfl
    exact not_mem_of_isDigit hdigits (d := '-') rfl List.mem_cons_self
  · rintro ds rfl
    exact not_mem_of_isDigit hdigits (d := '+') rfl List.mem_cons_self

end

/-- Decimal digits between blanks are read as the number in whose places they stand. -/
theorem readWhole_of_trimmed {s : String} {cs : List Char} {vs : List Nat}
    (htrim : trimChars isNumberBlank s.toList = cs) (hne : vs ≠ [])
    (hvalues : cs.map digitValue? = vs.map some) : readWhole s =
      if digitLimit < vs.length then .error (.tooManyDigits vs.length)
      else .ok (placeValue vs) := by
  have hsome := isSome_of_values hvalues
  have hdigits : ∀ c ∈ cs, isDigit c = true := fun c hc => by simp [isDigit, hsome c hc]
  have hmark : '_' ∉ cs := not_mem_of_isDigit hdigits rfl
  have hall : ∀ c ∈ cs, isDigitOrSeparator c = true :=
    fun c hc => by simp [isDigitOrSeparator, hsome c hc]
  have hlength : cs.length = vs.length := by
    simpa using congrArg List.length hvalues
  have hrun : cs.takeWhile isDigitOrSeparator = cs := List.takeWhile_eq_self_iff.2 hall
  have hrest : cs.dropWhile isDigitOrSeparator = [] := List.dropWhile_eq_nil_iff.2 hall
  have hcount : cs.countP (· != '_') = vs.length := by
    rw [← hlength, List.countP_eq_length]
    intro c hc
    have hc : c ≠ '_' := fun h => hmark (h ▸ hc)
    simpa using hc
  have hseparated : wellSeparated cs = true := by
    have hnonempty : cs ≠ [] := by
      intro hnil
      rw [hnil] at hlength
      exact hne (List.length_eq_zero_iff.1 hlength.symm)
    simp [wellSeparated, splitChars_of_not_mem hmark, hnonempty]
  simp only [readWhole, htrim, splitSign_of_isDigit hdigits, hrun, hrest, hcount, hseparated,
    digitsValue_of_values hvalues]
  simp

theorem readWhole_of_values {s : String} {vs : List Nat} (hne : vs ≠ [])
    (hvalues : s.toList.map digitValue? = vs.map some) : readWhole s =
      if digitLimit < vs.length then .error (.tooManyDigits vs.length)
      else .ok (placeValue vs) := by
  refine readWhole_of_trimmed ?_ hne hvalues
  have hbody : ∀ c ∈ s.toList, isNumberBlank c = false := fun c hc => by
    obtain ⟨v, hv⟩ := Option.isSome_iff_exists.1 (isSome_of_values hvalues c hc)
    exact isNumberBlank_of_isDigit (isDigit_of_digitValue? hv)
  simpa using @trimChars_between isNumberBlank [] s.toList [] (by simp) hbody (by simp)

/-- What a written whole number may consist of. -/
theorem isDigitOrSeparator_of_readWhole {s : String} {n : Int} (h : readWhole s = .ok n) :
    ∀ c ∈ s.toList, isNumberBlank c = true ∨ c = '-' ∨ c = '+' ∨ isDigitOrSeparator c = true := by
  intro c hc
  obtain ⟨front, back, hs, hfront, hback⟩ := trimChars_append isNumberBlank s.toList
  have hbody : ∀ d ∈ (splitSign (trimChars isNumberBlank s.toList)).2,
      isDigitOrSeparator d = true := by
    simp only [readWhole] at h
    split at h
    · cases h
    split at h
    · cases h
    split at h
    next => cases h
    next hrest => simpa using hrest
  rw [hs, List.append_assoc, List.mem_append, List.mem_append] at hc
  rcases hc with hc | hc | hc
  · exact .inl (hfront c hc)
  · revert hbody hc
    generalize trimChars isNumberBlank s.toList = cs
    fun_cases splitSign cs with
    | case1 ds =>
      intro hbody hc
      rcases List.mem_cons.1 hc with rfl | hc
      · exact .inr (.inl rfl)
      · exact .inr (.inr (.inr (hbody c hc)))
    | case2 ds =>
      intro hbody hc
      rcases List.mem_cons.1 hc with rfl | hc
      · exact .inr (.inr (.inl rfl))
      · exact .inr (.inr (.inr (hbody c hc)))
    | case3 => exact fun hbody hc => .inr (.inr (.inr (hbody c hc)))
  · exact .inl (hback c hc)

end CestExport.Number
