import CestExport.Number.Significant
import CestExport.Proofs.Number.Numeral
import CestExport.Proofs.Number.Significant

/-!
# Number literals

The numbers of generated code: a minus sign or none, digits, a point with digits or
none, an exponent or none.  Whole numbers and leading digits are written so, whatever
their layout, and what is written denotes the number that was to be written.

    Numeric (decimal n) n                                                (numeric_decimal)
    Numeric (layout.write x) (x.value of all its digits)                 (magnitude_write)
    Numeric s q  →  Denotes s q                                           (Numeric.denotes)
-/

namespace CestExport.Php

open Number

/-! ## Grammar -/

/-- The digits in front of a point: a zero stands alone, as it would make other digits octal. -/
def Leads (vs : List Nat) : Prop :=
  (∀ v ∈ vs, v < 10) ∧ (vs = [0] ∨ ∃ v rest, vs = v :: rest ∧ v ≠ 0)

/-- A point and digits behind it, or nothing. -/
inductive Fraction : List Char → List Nat → Prop
  | absent : Fraction [] []
  | point {ws : List Nat} : ws ≠ [] → (∀ w ∈ ws, w < 10) → Fraction ('.' :: ws.map digit) ws

/-- A power of ten behind a mark, or nothing. -/
inductive Scale : List Char → Int → Prop
  | absent : Scale [] 0
  | marked {c : Char} {negative : Bool} {sign : List Char} {xs : List Nat} :
    c = 'e' ∨ c = 'E' → Sign negative sign → xs ≠ [] → (∀ x ∈ xs, x < 10) →
    Scale (c :: (sign ++ xs.map digit)) (if negative then -(placeValue xs : Int) else placeValue xs)

/-- A literal for a number that is not negative. -/
inductive Magnitude : List Char → ℚ → Prop
  | intro {vs ws : List Nat} {fraction scale : List Char} {x : Int} :
    Leads vs → Fraction fraction ws → Scale scale x →
    Magnitude (vs.map digit ++ fraction ++ scale) (placeValue (vs ++ ws) * 10 ^ (x - ws.length))

/-- A literal for a number. -/
inductive Numeric : List Char → ℚ → Prop
  | plain {cs : List Char} {q : ℚ} : Magnitude cs q → Numeric cs q
  | negative {cs : List Char} {q : ℚ} : Magnitude cs q → Numeric ('-' :: cs) (-q)

/-! ## Literals and written numbers -/

theorem digits_map_digit {vs : List Nat} (hne : vs ≠ []) (hvs : ∀ v ∈ vs, v < 10) :
    Digits (vs.map digit) vs := by
  induction vs with
  | nil => exact absurd rfl hne
  | cons v vs ih =>
    obtain ⟨hv, hrest⟩ := List.forall_mem_cons.1 hvs
    have hvalue := (digit_table v hv).2.1
    cases vs with
    | nil => exact .last hvalue
    | cons w ws => exact .next hvalue (ih (by simp) hrest)

theorem Leads.ne_nil {vs : List Nat} (h : Leads vs) : vs ≠ [] := by
  rcases h.2 with rfl | ⟨v, rest, rfl, -⟩
  · simp
  · simp

theorem Scale.exponent {cs : List Char} {x : Int} (h : Scale cs x) : Exponent cs x := by
  cases h with
  | absent => exact .absent
  | marked hc hsign hne hxs => exact .marked hc hsign (digits_map_digit hne hxs)

theorem Magnitude.exists_unsigned {cs : List Char} {q : ℚ} (h : Magnitude cs q) :
    ∃ m e, Unsigned cs m e ∧ q = m * 10 ^ e := by
  cases h with
  | intro hvs hfraction hscale =>
    have hfront := digits_map_digit hvs.ne_nil hvs.1
    cases hfraction with
    | absent =>
      rw [List.append_nil]
      exact ⟨_, _, .intro (.whole hfront) hscale.exponent, rfl⟩
    | point hne hws =>
      exact ⟨_, _, .intro (.pointed (.digits hfront) (.digits (digits_map_digit hne hws))
        (by simp [hne])) hscale.exponent, rfl⟩

/-- A numeral without blanks around it. -/
theorem numeral_of_unsigned {sign cs : List Char} {negative : Bool} {m : Nat} {e : Int}
    (hsign : Sign negative sign) (h : Unsigned cs m e) : Numeral (sign ++ cs) negative m e := by
  simpa using @Numeral.intro [] [] sign cs negative m e (by simp) hsign h (by simp)

/-- A literal writes the number that it denotes. -/
theorem Numeric.denotes {s : String} {q : ℚ} (h : Numeric s.toList q) : Denotes s q := by
  have hsigned : ∀ {cs sign : List Char} {negative : Bool} {r : ℚ}, Sign negative sign →
      Magnitude cs r → s.toList = sign ++ cs → q = (if negative then -1 else 1) * r →
      Denotes s q := by
    intro cs sign negative r hsign hr hs hq
    obtain ⟨m, e, hunsigned, rfl⟩ := hr.exists_unsigned
    refine ⟨negative, m, e, ?_, hq⟩
    rw [hs]
    exact numeral_of_unsigned hsign hunsigned
  generalize hs : s.toList = cs at h
  cases h with
  | plain hq => exact hsigned .absent hq hs (by simp)
  | negative hq => exact hsigned .minus hq hs (by simp)

theorem Numeric.unique {s : String} {q r : ℚ} (hq : Numeric s.toList q)
    (hr : Numeric s.toList r) : q = r :=
  hq.denotes.unique hr.denotes

/-- The words for what is no finite number are no literals. -/
theorem not_numeric_word {s : String} (h : s ∈ ["inf", "-inf", "nan"]) (q : ℚ) :
    ¬Numeric s.toList q := by
  have hnone : ∀ w ∈ ["inf", "-inf", "nan"], written? w.toList = none := by decide
  intro hq
  obtain ⟨negative, m, e, hnumeral, -⟩ := hq.denotes
  have hsome := written?_eq_some.2 hnumeral
  rw [hnone s h] at hsome
  cases hsome

/-! ## Whole numbers -/

theorem digitChar_eq_digit : ∀ v < 10, Nat.digitChar v = digit v := by
  decide

/-- The digits of a number. -/
theorem exists_toDigits (n : Nat) :
    ∃ vs, Nat.toDigits 10 n = vs.map digit ∧ Leads vs ∧ placeValue vs = n := by
  induction n using Nat.strongRecOn with
  | ind n ih =>
    by_cases hn : n < 10
    · refine ⟨[n], ?_, ⟨by simpa using hn, ?_⟩, by simp [placeValue]⟩
      · rw [Nat.toDigits_of_lt_base hn, digitChar_eq_digit n hn]
        rfl
      · rcases Nat.eq_zero_or_pos n with rfl | hpos
        · exact .inl rfl
        · exact .inr ⟨n, [], rfl, hpos.ne'⟩
    · obtain ⟨vs, hvs, ⟨hall, hlead⟩, hvalue⟩ := ih (n / 10) (by omega)
      have hlast : n % 10 < 10 := Nat.mod_lt n (by norm_num)
      refine ⟨vs ++ [n % 10], ?_, ⟨List.forall_mem_append.2 ⟨hall, by simpa using hlast⟩, ?_⟩, ?_⟩
      · rw [Nat.toDigits_of_base_le (by norm_num) (by omega), hvs, digitChar_eq_digit _ hlast,
          List.map_append]
        rfl
      · rcases hlead with rfl | ⟨v, rest, rfl, hv⟩
        · have hzero : placeValue [0] = 0 := rfl
          omega
        · exact .inr ⟨v, rest ++ [n % 10], rfl, hv⟩
      · rw [placeValue_concat, hvalue]
        omega

theorem magnitude_toDigits (n : Nat) : Magnitude (Nat.toDigits 10 n) n := by
  obtain ⟨vs, hvs, hleads, hvalue⟩ := exists_toDigits n
  have h := Magnitude.intro hleads .absent .absent
  simpa [hvs, hvalue] using h

theorem numeric_decimal (n : Int) : Numeric (decimal n).toList n := by
  cases n with
  | ofNat m =>
    rw [toList_decimal_ofNat]
    exact .plain (magnitude_toDigits m)
  | negSucc m =>
    have hvalue : ((Int.negSucc m : Int) : ℚ) = -((m + 1 : Nat) : ℚ) := by
      rw [Int.cast_negSucc]
    rw [toList_decimal_negSucc, hvalue]
    exact .negative (magnitude_toDigits (m + 1))

/-! ## Leading digits -/

theorem dropZeros_concat_zero (cs : List Char) : dropZeros (cs ++ ['0']) = dropZeros cs := by
  simp [dropZeros]

theorem dropZeros_concat {c : Char} (h : c ≠ '0') (cs : List Char) :
    dropZeros (cs ++ [c]) = cs ++ [c] := by
  simp [dropZeros, h]

/-- Of the digits of a number, zeros at the end are dropped. -/
theorem exists_dropZeros {vs : List Nat} (hvs : ∀ v ∈ vs, v < 10) :
    ∃ us z, vs = us ++ List.replicate z 0 ∧ dropZeros (vs.map digit) = us.map digit := by
  induction vs using List.reverseRecOn with
  | nil => exact ⟨[], 0, rfl, rfl⟩
  | append_singleton vs v ih =>
    obtain ⟨hfront, hv⟩ := List.forall_mem_append.1 hvs
    have hdigit : ∀ v < 10, v ≠ 0 → digit v ≠ '0' := by decide
    rcases Nat.eq_zero_or_pos v with rfl | hpos
    · obtain ⟨us, z, rfl, hus⟩ := ih hfront
      refine ⟨us, z + 1, ?_, ?_⟩
      · rw [List.append_assoc, ← List.replicate_succ']
      · rw [← hus, List.map_append]
        exact dropZeros_concat_zero _
    · refine ⟨vs ++ [v], 0, by simp, ?_⟩
      rw [List.map_append]
      exact dropZeros_concat (hdigit v (hv v (by simp)) hpos.ne') _

/-- The exponent in a text is the one that was to be written. -/
theorem scale_exponentText (e : Int) : Scale (exponentText e) e := by
  obtain ⟨vs, hvs, hleads, hvalue⟩ := exists_toDigits e.natAbs
  obtain ⟨xs, hxs, hne, hall, hplace⟩ : ∃ xs : List Nat,
      (if (Nat.toDigits 10 e.natAbs).length < 2 then '0' :: Nat.toDigits 10 e.natAbs
        else Nat.toDigits 10 e.natAbs) = xs.map digit ∧
        xs ≠ [] ∧ (∀ x ∈ xs, x < 10) ∧ placeValue xs = e.natAbs := by
    rw [hvs]
    split
    · refine ⟨0 :: vs, rfl, by simp, List.forall_mem_cons.2 ⟨by norm_num, hleads.1⟩, ?_⟩
      rw [← hvalue]
      exact (placeValue_append [0] vs).trans (by simp [placeValue])
    · exact ⟨vs, rfl, hleads.ne_nil, hleads.1, hvalue⟩
  rw [exponentText, hxs]
  by_cases hneg : e < 0
  · rw [if_pos hneg]
    have h := Scale.marked (.inl rfl) .minus hne hall
    rw [hplace, if_pos rfl, show -(e.natAbs : Int) = e by omega] at h
    exact h
  · rw [if_neg hneg]
    have h := Scale.marked (.inl rfl) .plus hne hall
    rw [hplace, if_neg (by simp), show (e.natAbs : Int) = e by omega] at h
    exact h

section

variable {u : Nat} {rest : List Nat} (hu : u ≠ 0) (hall : ∀ v ∈ u :: rest, v < 10) (place : Int)
include hu hall

/-- Leading digits with the point behind the first one. -/
theorem magnitude_scaled :
    Magnitude (match (u :: rest).map digit with
      | [] => ['0']
      | [d] => d :: exponentText place
      | d :: r => d :: '.' :: r ++ exponentText place)
      (placeValue (u :: rest) * 10 ^ (place + 1 - (u :: rest).length)) := by
  obtain ⟨hfirst, hrest⟩ := List.forall_mem_cons.1 hall
  have hlead : Leads [u] := ⟨by simpa using hfirst, .inr ⟨u, [], rfl, hu⟩⟩
  have hscale := scale_exponentText place
  cases rest with
  | nil =>
    have h := Magnitude.intro hlead .absent hscale
    simpa using h
  | cons w ws =>
    have h := Magnitude.intro hlead (.point (by simp) hrest) hscale
    rw [show place - ((w :: ws).length : Int) = place + 1 - (u :: w :: ws).length by
      simp only [List.length_cons]
      push_cast
      ring] at h
    simpa using h

omit hu in
/-- Leading digits behind a point and zeros. -/
theorem magnitude_below (hplace : place < 0) :
    Magnitude ('0' :: '.' :: List.replicate (-place - 1).toNat '0' ++ (u :: rest).map digit)
      (placeValue (u :: rest) * 10 ^ (place + 1 - (u :: rest).length)) := by
  obtain ⟨k, hk⟩ := Int.eq_ofNat_of_zero_le (show 0 ≤ -place - 1 by omega)
  have hws : ∀ w ∈ List.replicate k 0 ++ u :: rest, w < 10 := by
    refine List.forall_mem_append.2 ⟨fun w hw => ?_, hall⟩
    rw [List.eq_of_mem_replicate hw]
    norm_num
  have hlead : Leads [0] := ⟨by simp, .inl rfl⟩
  have h := Magnitude.intro hlead (.point (by simp) hws) .absent
  have hvalue : placeValue ([0] ++ (List.replicate k 0 ++ u :: rest)) = placeValue (u :: rest) := by
    rw [placeValue_append, placeValue_append, placeValue_zeros]
    simp [placeValue]
  have hexponent : (0 - ((List.replicate k 0 ++ u :: rest : List Nat).length : Int)) =
      place + 1 - (u :: rest).length := by
    rw [List.length_append, List.length_replicate]
    push_cast
    omega
  rw [hvalue, hexponent] at h
  have hzero : digit 0 = '0' := rfl
  rw [hk, Int.toNat_natCast]
  simpa [hzero] using h

/-- Leading digits with zeros behind them. -/
theorem magnitude_padded (z : Nat) (point : Bool) :
    Magnitude ((u :: rest).map digit ++ List.replicate z '0' ++ if point then ['.', '0'] else [])
      (placeValue (u :: rest) * 10 ^ (z : Int)) := by
  have hzeros : (u :: rest ++ List.replicate z 0).map digit =
      (u :: rest).map digit ++ List.replicate z '0' := by
    rw [List.map_append, List.map_replicate]
    rfl
  have hlead : Leads (u :: rest ++ List.replicate z 0) := by
    refine ⟨List.forall_mem_append.2 ⟨hall, fun w hw => ?_⟩, .inr ⟨u, _, rfl, hu⟩⟩
    rw [List.eq_of_mem_replicate hw]
    norm_num
  have hvalue : placeValue (u :: rest ++ List.replicate z 0) = placeValue (u :: rest) * 10 ^ z := by
    rw [placeValue_append, placeValue_zeros, List.length_replicate, Nat.add_zero]
  rw [← hzeros]
  cases point with
  | false =>
    have h := Magnitude.intro hlead .absent .absent
    simp only [List.append_nil, hvalue] at h
    simpa using h
  | true =>
    have hpoint : Fraction ('.' :: [0].map digit) [0] := .point (by simp) (by simp)
    have h := Magnitude.intro hlead hpoint .absent
    rw [placeValue_concat, hvalue, Nat.add_zero, List.append_nil] at h
    have hshift : ((10 * (placeValue (u :: rest) * 10 ^ z) : Nat) : ℚ) *
        10 ^ (0 - (([0] : List Nat).length : Int)) = placeValue (u :: rest) * 10 ^ (z : Int) := by
      rw [zpow_natCast]
      push_cast
      rw [List.length_singleton]
      norm_num
      ring
    rw [hshift] at h
    exact h

/-- Leading digits with the point among them. -/
theorem magnitude_among {k : Nat} (hk : k < rest.length) :
    Magnitude (((u :: rest).take (k + 1)).map digit ++ '.' :: ((u :: rest).drop (k + 1)).map digit)
      (placeValue (u :: rest) * 10 ^ ((k : Int) + 1 - (u :: rest).length)) := by
  have hlead : Leads ((u :: rest).take (k + 1)) :=
    ⟨fun v hv => hall v (List.mem_of_mem_take hv), .inr ⟨u, rest.take k, rfl, hu⟩⟩
  have hne : (u :: rest).drop (k + 1) ≠ [] := by
    simpa using hk
  have h := Magnitude.intro hlead
    (.point hne fun v hv => hall v (List.mem_of_mem_drop hv)) .absent
  have hexponent : (0 - (((u :: rest).drop (k + 1)).length : Int)) =
      k + 1 - (u :: rest).length := by
    rw [List.length_drop, List.length_cons]
    omega
  rw [List.take_append_drop, hexponent, List.append_nil] at h
  exact h

/-- Leading digits in a layout. -/
theorem magnitude_layout (layout : DecimalLayout) {x : Leading}
    (hx : dropZeros (Nat.toDigits 10 x.digits) = (u :: rest).map digit) :
    Magnitude (layout.write x)
      (placeValue (u :: rest) * 10 ^ (x.place + 1 - (u :: rest).length)) := by
  simp only [DecimalLayout.write, hx]
  split
  next => exact magnitude_scaled hu hall x.place
  next =>
    split
    next hplace => exact magnitude_below hall x.place hplace
    next hplace =>
      obtain ⟨k, hk⟩ := Int.eq_ofNat_of_zero_le (not_lt.1 hplace)
      rw [hk, Int.toNat_natCast]
      rcases Nat.lt_or_ge k rest.length with hlong | hshort
      · have htake : ((u :: rest).take (k + 1)).length = k + 1 := by
          rw [List.length_take, List.length_cons]
          omega
        have hback : (((u :: rest).map digit).drop (k + 1)).isEmpty = false := by
          simpa using hlong
        rw [hback, ← List.map_take, ← List.map_drop, List.length_map, htake, Nat.sub_self]
        simpa using magnitude_among hu hall hlong
      · have hback : ((u :: rest).map digit).drop (k + 1) = [] := by
          simpa using hshort
        have hfront : ((u :: rest).map digit).take (k + 1) = (u :: rest).map digit := by
          simpa using hshort
        have hexponent : (k : Int) + 1 - (u :: rest).length = (k - rest.length : Nat) := by
          rw [List.length_cons]
          omega
        rw [hback, hfront, hexponent, List.length_map, List.length_cons,
          Nat.add_sub_add_right]
        have h := magnitude_padded hu hall (k - rest.length) layout.point
        cases hpoint : layout.point
        · simpa [hpoint] using h
        · simpa [hpoint] using h

end

/-- What is written denotes the number that all the digits stand for. -/
theorem magnitude_write (layout : DecimalLayout) {x : Leading} (hpos : 0 < x.digits) :
    Magnitude (layout.write x) (x.value (Nat.toDigits 10 x.digits).length) := by
  obtain ⟨vs, hvs, ⟨hall, hlead⟩, hvalue⟩ := exists_toDigits x.digits
  obtain ⟨us, z, hus, hdrop⟩ := exists_dropZeros hall
  obtain ⟨u, rest, rfl, hu⟩ : ∃ u rest, us = u :: rest ∧ u ≠ 0 := by
    cases us with
    | nil =>
      rw [hus, List.nil_append, placeValue_zeros] at hvalue
      omega
    | cons u rest =>
      refine ⟨u, rest, rfl, ?_⟩
      rcases hlead with hzero | ⟨v, tail, hv, hne⟩
      · rw [hzero] at hvalue
        have hnone : placeValue [0] = 0 := rfl
        omega
      · rw [hus, List.cons_append] at hv
        rwa [(List.cons.inj hv).1]
  have hdigits : x.digits = placeValue (u :: rest) * 10 ^ z := by
    rw [← hvalue, hus, placeValue_append, placeValue_zeros, List.length_replicate, Nat.add_zero]
  have hlength : (Nat.toDigits 10 x.digits).length = (u :: rest).length + z := by
    rw [hvs, List.length_map, hus, List.length_append, List.length_replicate]
  have hshift : x.value (Nat.toDigits 10 x.digits).length =
      placeValue (u :: rest) * 10 ^ (x.place + 1 - (u :: rest).length) := by
    rw [Leading.value, hlength, hdigits]
    push_cast
    rw [mul_assoc, ← zpow_natCast, ← zpow_add₀ (by norm_num)]
    congr 2
    ring
  rw [hshift]
  refine magnitude_layout hu (fun v hv => hall v ?_) layout (hvs ▸ hdrop)
  rw [hus]
  exact List.mem_append_left _ hv

end CestExport.Php
