import CestExport.Proofs.Number.Character
import CestExport.Proofs.Number.Reading
import CestExport.Proofs.Php.Numeric

/-!
# Waiting times in seconds

A time in seconds is a number literal as long as it is finite: all digits of a whole
number, six digits of any other.  So thousandths of a whole number of milliseconds
are met exactly if there are none, or if six digits suffice, and by less than one part
in a hundred thousand else.

    literal x is numeric  ↔  x is finite                         (exists_numeric_literal_iff)
    d.seconds gives n / 1000  ↔
      1000 ∣ n  or  n = u · 10 ^ k with u < 10 ^ 6                        (seconds_exact_iff)
-/

namespace CestExport.Duration

open Number Number.Binary64

/-! ## Algorithm -/

/-- A literal for a number. -/
def Gives (result : Except Failure String) (q : ℚ) : Prop :=
  ∃ s, result = .ok s ∧ Php.Numeric s.toList q

/-- A blank time that a finite number stands for, or one that writes a number below the bound. -/
def IsNumber (d : Duration) (fallback : Except Failure Binary64) : Prop :=
  (d.written = .ok "" ∧ ∃ x, fallback = .ok x ∧ x.IsFinite) ∨
    ∃ t q, d.written = .ok t ∧ Denotes t q ∧ |q| < overflowBound

theorem Gives.unique {result : Except Failure String} {q r : ℚ} (hq : Gives result q)
    (hr : Gives result r) : q = r := by
  obtain ⟨s, rfl, hs⟩ := hq
  obtain ⟨t, ht, hnumeric⟩ := hr
  cases ht
  exact hs.unique hnumeric

/-! ## Literals -/

section

variable {negative : Bool} {m : Nat} {e : Int}

theorem literal_of_whole {n : Nat} (h : (m : ℚ) * 2 ^ e = n) :
    literal (.finite negative m e) = decimal (if negative then -(n : Int) else n) := by
  rw [literal, if_pos (isWhole_iff.2 ⟨n, h⟩), truncate?_of_eq h]

theorem literal_of_fraction (h : ∀ n : Nat, (m : ℚ) * 2 ^ e ≠ n) :
    literal (.finite negative m e) =
      signed negative (sixDigits.write (roundToDigits 6 (ratio m e).1 (ratio m e).2)) := by
  have hm : m ≠ 0 := by
    rintro rfl
    exact h 0 (by simp)
  have hwhole : isWhole (.finite negative m e) = false := by
    rw [Bool.eq_false_iff, ne_eq, isWhole_iff]
    rintro ⟨n, hn⟩
    exact h n hn
  rw [literal, hwhole, if_neg (by simp), general, if_neg hm]

theorem numeric_signed {cs : List Char} {q : ℚ} (h : Php.Magnitude cs q) (negative : Bool) :
    Php.Numeric (signed negative cs).toList (if negative then -q else q) := by
  rw [signed, String.toList_ofList]
  cases negative with
  | false => exact .plain h
  | true => exact .negative h

/-- Six digits stand for a number of six digits. -/
theorem magnitude_sixDigits {n d : Nat} (hd : 0 < d) (hn : 0 < n) :
    Php.Magnitude (sixDigits.write (roundToDigits 6 n d)) ((roundToDigits 6 n d).value 6) := by
  obtain ⟨hlower, hupper⟩ := @digits_roundToDigits_bounds 6 n d (by norm_num) hd hn
  have hlength : (Nat.toDigits 10 (roundToDigits 6 n d).digits).length = 6 := by
    have hle := (Nat.length_toDigits_le_iff (by norm_num : 1 < 10) (by norm_num : 0 < 6)).2 hupper
    have hge := mt (Nat.length_toDigits_le_iff (n := (roundToDigits 6 n d).digits)
      (by norm_num : 1 < 10) (by norm_num : 0 < 5)).1 (not_lt.2 hlower)
    omega
  have h := Php.magnitude_write sixDigits (x := roundToDigits 6 n d) (by omega)
  rwa [hlength] at h

theorem ratio_num_pos (h : ∀ n : Nat, (m : ℚ) * 2 ^ e ≠ n) : 0 < (ratio m e).1 := by
  refine Nat.pos_of_ne_zero fun hzero => h 0 ?_
  rw [← ratio_eq, hzero, Nat.cast_zero, zero_div]

/-- Every finite number has a literal. -/
theorem exists_numeric_literal (negative : Bool) (m : Nat) (e : Int) :
    ∃ q, Php.Numeric (literal (.finite negative m e)).toList q := by
  by_cases h : ∃ n : Nat, (m : ℚ) * 2 ^ e = n
  · obtain ⟨n, hn⟩ := h
    rw [literal_of_whole hn]
    exact ⟨_, Php.numeric_decimal _⟩
  · have hfraction := not_exists.1 h
    rw [literal_of_fraction hfraction]
    exact ⟨_, numeric_signed (magnitude_sixDigits (ratio_pos m e) (ratio_num_pos hfraction)) _⟩

end

/-- What is not finite is written as a word. -/
theorem literal_of_not_isFinite {x : Binary64} (h : ¬x.IsFinite) :
    literal x ∈ ["inf", "-inf", "nan"] := by
  cases x with
  | finite negative m e => exact absurd ⟨negative, m, e, rfl⟩ h
  | infinite negative => cases negative <;> decide
  | nan => decide

theorem exists_numeric_literal_iff {x : Binary64} :
    (∃ q, Php.Numeric (literal x).toList q) ↔ x.IsFinite := by
  constructor
  · rintro ⟨q, hq⟩
    by_contra h
    exact Php.not_numeric_word (literal_of_not_isFinite h) q hq
  · rintro ⟨negative, m, e, rfl⟩
    exact exists_numeric_literal negative m e

/-! ## Recorded times -/

theorem readDecimal?_empty : readDecimal? "" = none := by
  decide

theorem not_denotes_empty (q : ℚ) : ¬Denotes "" q := by
  intro h
  obtain ⟨negative, x, hx, -⟩ := exists_rounded_of_denotes h
  rw [readDecimal?_empty] at hx
  cases hx

/-- The literal is that of a finite time, or a word. -/
theorem exists_literal_of_seconds {d : Duration} {fallback : Except Failure Binary64} {s : String}
    (h : d.secondsOr fallback = .ok s) :
    ∃ x, s = literal x ∧ (x.IsFinite ↔ d.IsNumber fallback) := by
  obtain ⟨t, ht, ⟨rfl, x, hx, rfl⟩ | ⟨hne, x, hx, rfl⟩⟩ := secondsOr_eq_ok.1 h
  · refine ⟨x, rfl, fun hfinite => .inl ⟨ht, x, hx, hfinite⟩, ?_⟩
    rintro (⟨-, y, hy, hfinite⟩ | ⟨t, q, ht', hq, -⟩)
    · cases hx.symm.trans hy
      exact hfinite
    · cases ht.symm.trans ht'
      exact absurd hq (not_denotes_empty q)
  · refine ⟨x.divNat 1000, rfl, ?_⟩
    rw [isFinite_divNat_iff hx (by norm_num), isFinite_iff_denotes hx]
    constructor
    · rintro ⟨q, hq, hlt⟩
      exact .inr ⟨t, q, ht, hq, hlt⟩
    · rintro (⟨ht', -⟩ | ⟨t', q, ht', hq, hlt⟩)
      · cases ht.symm.trans ht'
        exact absurd rfl hne
      · cases ht.symm.trans ht'
        exact ⟨q, hq, hlt⟩

section

variable {d : Duration} {fallback : Except Failure Binary64} {s : String}
  (h : d.secondsOr fallback = .ok s)
include h

theorem numeric_seconds_iff : (∃ q, Php.Numeric s.toList q) ↔ d.IsNumber fallback := by
  obtain ⟨x, rfl, hx⟩ := exists_literal_of_seconds h
  rw [exists_numeric_literal_iff, hx]

theorem word_of_seconds (hnot : ¬d.IsNumber fallback) : s ∈ ["inf", "-inf", "nan"] := by
  obtain ⟨x, rfl, hx⟩ := exists_literal_of_seconds h
  exact literal_of_not_isFinite (mt hx.1 hnot)

end

/-! ## Whole seconds -/

theorem rounded_natAbs (i : Int) :
    Rounded (decide (i < 0)) |(i : ℚ)| (ofRatio (decide (i < 0)) i.natAbs 1) := by
  have hrounded := rounded_ofRatio (decide (i < 0)) i.natAbs Nat.one_pos
  rwa [Nat.cast_one, div_one, Nat.cast_natAbs, Int.cast_abs] at hrounded

/-- A whole number below the bound is a finite number of seconds. -/
theorem exists_wholeSeconds {i : Int} (h : |(i : ℚ)| < overflowBound) :
    ∃ m e, wholeSeconds i = .ok (.finite (decide (i < 0)) m e) ∧
      (IsBinary64 |(i : ℚ)| → (m : ℚ) * 2 ^ e = |(i : ℚ)|) := by
  have hrounded := rounded_natAbs i
  unfold wholeSeconds ofInt?
  generalize ofRatio (decide (i < 0)) i.natAbs 1 = x at hrounded
  cases hrounded with
  | finite _ _ _ hexact => exact ⟨_, _, rfl, hexact⟩
  | infinite hge => exact absurd hge (not_le.2 h)

theorem wholeSeconds_of_overflow {i : Int} (h : overflowBound ≤ |(i : ℚ)|) :
    wholeSeconds i = .error .timeoutTooLarge := by
  have hrounded := rounded_natAbs i
  unfold wholeSeconds ofInt?
  generalize ofRatio (decide (i < 0)) i.natAbs 1 = x at hrounded
  cases hrounded with
  | finite hlt => exact absurd h (not_le.2 hlt)
  | infinite => rfl

/-- Where a whole number stands for a blank time, the blank time is a number. -/
theorem isNumber_wholeSeconds_iff {d : Duration} {i : Int} {s : String}
    (h : d.seconds i = .ok s) : d.IsNumber (wholeSeconds i) ↔
      d.written = .ok "" ∨ ∃ t q, d.written = .ok t ∧ Denotes t q ∧ |q| < overflowBound := by
  refine or_congr_left ⟨fun hblank => hblank.1, fun hblank => ⟨hblank, ?_⟩⟩
  obtain ⟨t, ht, ⟨-, x, hx, -⟩ | ⟨hne, -⟩⟩ := secondsOr_eq_ok.1 h
  · rcases lt_or_ge |(i : ℚ)| overflowBound with hlt | hge
    · obtain ⟨m, e, hwhole, -⟩ := exists_wholeSeconds hlt
      exact ⟨_, hwhole, _, _, _, rfl⟩
    · rw [wholeSeconds_of_overflow hge] at hx
      cases hx
  · cases ht.symm.trans hblank
    exact absurd rfl hne

/-! ## Milliseconds -/

section

variable {n : Nat} (hn : n < 2 ^ 53)
include hn

/-- A whole number of up to 53 bits is read as itself. -/
theorem exists_readDecimal?_decimal :
    ∃ m e, readDecimal? (decimal n) = some (.finite false m e) ∧ (m : ℚ) * 2 ^ e = n := by
  obtain ⟨m, e, hunsigned, hvalue⟩ := (Php.magnitude_toDigits n).exists_unsigned
  have hnumeral : Numeral (decimal n).toList false m e := by
    rw [show (n : Int) = .ofNat n from rfl, toList_decimal_ofNat]
    exact Php.numeral_of_unsigned .absent hunsigned
  have hrounded := rounded_ofDecimal false m e
  rw [← hvalue] at hrounded
  rw [readDecimal?_of_numeral hnumeral]
  generalize ofDecimal false m e = x at hrounded
  have hbinary := isBinary64_of_lt hn
  cases hrounded with
  | finite _ _ _ hexact => exact ⟨_, _, rfl, hexact hbinary⟩
  | infinite hge =>
    have hlt := hbinary.lt_overflowBound
    rw [Nat.abs_cast] at hlt
    exact absurd hge (not_le.2 hlt)

/-- A thousandth is rounded once, and not at all if it is whole. -/
theorem exists_thousandth {m : Nat} {e : Int} (h : (m : ℚ) * 2 ^ e = n) :
    ∃ (k : Nat) (f : Int), divNat (.finite false m e) 1000 = .finite false k f ∧
      |k * 2 ^ f - (n / 1000 : ℚ)| ≤ n / 1000 / 2 ^ 53 ∧
      ∀ i : Nat, n = 1000 * i → (k : ℚ) * 2 ^ f = i := by
  have hd : 0 < (ratio m e).2 * 1000 := Nat.mul_pos (ratio_pos m e) (by norm_num)
  have hquotient : ((ratio m e).1 / ((ratio m e).2 * 1000 : Nat) : ℚ) = n / 1000 := by
    rw [← h, ← ratio_eq]
    push_cast
    rw [div_div]
  have hrounded := rounded_ofRatio false (ratio m e).1 hd
  have hdivide : divNat (.finite false m e) 1000 =
      ofRatio false (ratio m e).1 ((ratio m e).2 * 1000) := rfl
  rw [hquotient] at hrounded
  have hwhole : ∀ {k : Nat} {f : Int},
      divNat (.finite false m e) 1000 = .finite false k f →
      ∀ i : Nat, n = 1000 * i → (k : ℚ) * 2 ^ f = i := by
    intro k f hkf i hi
    have hexact : (n / 1000 : ℚ) = i := by
      rw [hi]
      push_cast
      field_simp
    rw [← hdivide, hkf, hexact] at hrounded
    cases hrounded with
    | finite _ _ _ hvalue => exact hvalue (isBinary64_of_lt (by omega))
  rcases Nat.eq_zero_or_pos n with rfl | hpos
  · have hzero : divNat (.finite false m e) 1000 = zero false := by
      have hnum : (ratio m e).1 = 0 := by
        rw [ratio_of_eq h, Nat.zero_mul]
      rw [hdivide, ofRatio, if_pos hnum]
    refine ⟨0, -1074, hzero, by norm_num, hwhole hzero⟩
  · have hone : (1 : ℚ) ≤ n := by exact_mod_cast hpos
    have hlow : (2 : ℚ) ^ (-1022 : Int) ≤ n / 1000 := by
      calc (2 : ℚ) ^ (-1022 : Int) ≤ 2 ^ (-10 : Int) :=
            zpow_le_zpow_right₀ (by norm_num) (by norm_num)
        _ ≤ 1 / 1000 := by norm_num
        _ ≤ n / 1000 := div_le_div_of_nonneg_right hone (by norm_num)
    have hhigh : (n / 1000 : ℚ) < 2 ^ (1023 : Int) := by
      have hcast : (n : ℚ) < 2 ^ (53 : Int) := by exact_mod_cast hn
      calc (n / 1000 : ℚ) ≤ n := div_le_self (by linarith) (by norm_num)
        _ < 2 ^ (53 : Int) := hcast
        _ ≤ 2 ^ (1023 : Int) := zpow_le_zpow_right₀ (by norm_num) (by norm_num)
    rw [← hquotient] at hlow hhigh
    obtain ⟨k, f, hkf, herror⟩ := exists_ofRatio false hd hlow hhigh
    rw [hquotient] at herror
    exact ⟨k, f, hkf, herror, hwhole hkf⟩

omit hn in
/-- Six digits are enough for a thousandth exactly if six digits are enough for the number. -/
theorem value_thousandth_iff {a b : Nat} (ha : 0 < a) (hb : 0 < b)
    (hnear : |(a / b : ℚ) - n / 1000| ≤ n / 1000 / 2 ^ 53) :
    (roundToDigits 6 a b).value 6 = n / 1000 ↔ ∃ u k, u < 10 ^ 6 ∧ n = u * 10 ^ k := by
  constructor
  · intro h
    obtain ⟨-, hdigits⟩ := @digits_roundToDigits_bounds 6 a b (by norm_num) hb ha
    obtain ⟨x, hx⟩ : ∃ x, x = roundToDigits 6 a b := ⟨_, rfl⟩
    rw [← hx] at h hdigits
    have hvalue : (x.digits : ℚ) * 10 ^ (x.place - 2) = n := by
      rw [Leading.value, eq_div_iff (by norm_num), mul_assoc] at h
      rw [← h, show x.place - 2 = x.place - ((6 : Nat) - 1) + (3 : Nat) by push_cast; ring,
        zpow_add₀ (by norm_num), zpow_natCast]
      norm_num
    rcases Int.le_total 0 (x.place - 2) with hk | hk
    · obtain ⟨k, hk⟩ := Int.eq_ofNat_of_zero_le hk
      rw [hk, zpow_natCast] at hvalue
      exact ⟨x.digits, k, hdigits, by exact_mod_cast hvalue.symm⟩
    · obtain ⟨k, hk⟩ := Int.eq_ofNat_of_zero_le (show 0 ≤ -(x.place - 2) by omega)
      rw [show x.place - 2 = -(k : Int) by omega, zpow_neg, zpow_natCast, ← div_eq_mul_inv,
        div_eq_iff (by positivity)] at hvalue
      have hle : n ≤ x.digits := by
        rw [show x.digits = n * 10 ^ k by exact_mod_cast hvalue]
        exact Nat.le_mul_of_pos_right n (Nat.pow_pos (by norm_num))
      exact ⟨n, 0, by omega, by simp⟩
  · rintro ⟨u, k, hu, rfl⟩
    have hthousandth : ((u * 10 ^ k : Nat) : ℚ) / 1000 = u * 10 ^ ((k : Int) - 3) := by
      rw [zpow_sub₀ (by norm_num), zpow_natCast]
      push_cast
      ring
    have hpos : (0 : ℚ) ≤ ((u * 10 ^ k : Nat) : ℚ) / 1000 := by positivity
    rw [hthousandth] at hnear hpos ⊢
    refine value_roundToDigits_eq (by norm_num) hb ha hu (hnear.trans ?_)
    have hlower := (abs_le.1 hnear).1
    norm_num at hlower ⊢
    linarith

omit hn in
theorem abs_value_thousandth_sub {a b : Nat} (ha : 0 < a) (hb : 0 < b)
    (hnear : |(a / b : ℚ) - n / 1000| ≤ n / 1000 / 2 ^ 53) :
    |(roundToDigits 6 a b).value 6 - (n / 1000 : ℚ)| ≤ n / 1000 / 10 ^ 5 := by
  have hround := @abs_value_roundToDigits_sub 6 a b (by norm_num) hb ha
  have hpos : (0 : ℚ) ≤ n / 1000 := by positivity
  have hupper := (abs_le.1 hnear).2
  calc |(roundToDigits 6 a b).value 6 - (n / 1000 : ℚ)|
    _ ≤ |(roundToDigits 6 a b).value 6 - (a / b : ℚ)| + |(a / b : ℚ) - n / 1000| :=
      abs_sub_le _ _ _
    _ ≤ a / b / 2 / 10 ^ 5 + n / 1000 / 2 ^ 53 := add_le_add hround hnear
    _ ≤ n / 1000 / 10 ^ 5 := by
      norm_num at hupper ⊢
      linarith

/-- The literal for a thousandth of a number. -/
theorem exists_literal_thousandth {m : Nat} {e : Int} (h : (m : ℚ) * 2 ^ e = n) :
    ∃ q, Php.Numeric (literal (divNat (.finite false m e) 1000)).toList q ∧
      |q - (n / 1000 : ℚ)| ≤ n / 1000 / 10 ^ 5 ∧
      (q = n / 1000 ↔ 1000 ∣ n ∨ ∃ u k, u < 10 ^ 6 ∧ n = u * 10 ^ k) := by
  obtain ⟨k, f, hkf, hnear, hwhole⟩ := exists_thousandth hn h
  rw [hkf]
  by_cases hdvd : 1000 ∣ n
  · obtain ⟨i, hi⟩ := hdvd
    have hexact : ((i : Int) : ℚ) = n / 1000 := by
      rw [hi]
      push_cast
      field_simp
    refine ⟨((i : Int) : ℚ), ?_, ?_, iff_of_true hexact (.inl ⟨i, hi⟩)⟩
    · rw [literal_of_whole (hwhole i hi), if_neg (by simp)]
      exact Php.numeric_decimal i
    · rw [hexact, sub_self, abs_zero]
      positivity
  · have hfraction : ∀ i : Nat, (k : ℚ) * 2 ^ f ≠ i := by
      intro i hi
      -- a whole number that near could only be the thousandth itself
      have hless : |(1000 * i - n : ℚ)| < 1 := by
        have hcast : (n : ℚ) < 2 ^ 53 := by exact_mod_cast hn
        rw [hi, abs_le] at hnear
        rw [abs_lt]
        constructor
        · linarith [hnear.1]
        · linarith [hnear.2]
      have hwhole : |(1000 * i - n : Int)| < 1 := by exact_mod_cast hless
      rw [Int.abs_lt_one_iff] at hwhole
      exact hdvd ⟨i, by omega⟩
    have hnum := ratio_num_pos hfraction
    have hden := ratio_pos k f
    rw [← ratio_eq] at hnear
    refine ⟨_, ?_, abs_value_thousandth_sub hnum hden hnear, ?_⟩
    · rw [literal_of_fraction hfraction]
      exact numeric_signed (magnitude_sixDigits hden hnum) false
    · rw [value_thousandth_iff hnum hden hnear]
      exact (or_iff_right hdvd).symm

theorem showWhole_of_lt : showWhole n = .ok (decimal n) := by
  have hshowable : isShowable n = true := by
    rw [isShowable, Int.natAbs_natCast, decide_eq_true_eq]
    calc n < 2 ^ 53 := hn
      _ ≤ tenTo 16 := by decide
      _ ≤ tenTo digitLimit := tenTo_mono (by decide)
  rw [showWhole, if_pos hshowable]

theorem written_of_decimal {d : Duration} (hd : d = .whole n ∨ d = .text (decimal n)) :
    d.written = .ok (decimal n) := by
  rcases hd with rfl | rfl
  · rw [written, showWhole_of_lt hn, mapError_ok]
  · have hbody : ∀ c ∈ (decimal n).toList, Text.isBlank c = false := by
      obtain ⟨vs, hvs, ⟨hall, -⟩, -⟩ := Php.exists_toDigits n
      intro c hc
      rw [show (n : Int) = .ofNat n from rfl, toList_decimal_ofNat, hvs] at hc
      obtain ⟨v, hv, rfl⟩ := List.mem_map.1 hc
      have hdigit := Text.isDigit_of_digitValue? (digit_table v (hall v hv)).2.1
      rw [Bool.eq_false_iff]
      intro hblank
      rw [Text.isDigit_of_isBlank hblank] at hdigit
      cases hdigit
    have htrim := @Text.trimChars_between Text.isBlank [] _ [] (by simp) hbody (by simp)
    rw [List.nil_append, List.append_nil] at htrim
    rw [written, Text.trim, htrim, String.ofList_toList]

/-- A whole number of seconds is written as itself. -/
theorem gives_fallback {d : Duration} (hd : d.written = .ok "") : Gives (d.seconds n) n := by
  have hbinary := isBinary64_of_lt hn
  have habs : |((n : Int) : ℚ)| = n := by
    rw [Int.cast_natCast, Nat.abs_cast]
  have hlt : |((n : Int) : ℚ)| < overflowBound := by
    rw [habs, ← Nat.abs_cast n]
    exact hbinary.lt_overflowBound
  obtain ⟨m, e, hwhole, hvalue⟩ := exists_wholeSeconds hlt
  rw [habs] at hvalue
  refine ⟨_, secondsOr_eq_ok.2 ⟨_, hd, .inl ⟨rfl, _, hwhole, rfl⟩⟩, ?_⟩
  have hsign : decide ((n : Int) < 0) = false := by simp
  rw [literal_of_whole (hvalue hbinary), hsign, if_neg (by simp)]
  exact Php.numeric_decimal n

end

/-- Exactly the thousandths of six digits are met; the whole ones among them, and whole numbers of
seconds that stand for a blank time, whatever their digits. -/
theorem seconds_exact_iff {n : Nat} (hn : n < 2 ^ 53) :
    (∀ (d : Duration) (fallback : Int), d = .whole n ∨ d = .text (decimal n) →
      (Gives (d.seconds fallback) (n / 1000) ↔ 1000 ∣ n ∨ ∃ u k, u < 10 ^ 6 ∧ n = u * 10 ^ k) ∧
      ∃ q, Gives (d.seconds fallback) q ∧ |q - (n / 1000 : ℚ)| ≤ n / 1000 / 10 ^ 5) ∧
    ∀ d : Duration, d.written = .ok "" → Gives (d.seconds n) n := by
  refine ⟨fun d fallback hd => ?_, fun d => gives_fallback hn⟩
  obtain ⟨m, e, hread, hvalue⟩ := exists_readDecimal?_decimal hn
  obtain ⟨q, hq, hnear, hexact⟩ := exists_literal_thousandth hn hvalue
  have hne : decimal n ≠ "" := by
    intro hempty
    rw [hempty, readDecimal?_empty] at hread
    cases hread
  have hgives : Gives (d.seconds fallback) q :=
    ⟨_, secondsOr_eq_ok.2 ⟨_, written_of_decimal hn hd, .inr ⟨hne, _, hread, rfl⟩⟩, hq⟩
  refine ⟨?_, q, hgives, hnear⟩
  rw [← hexact]
  constructor
  · exact hgives.unique
  · rintro rfl
    exact hgives

theorem seconds_exact_iff_oneAndHalf : 1500 < 2 ^ 53 ∧
    Gives ((Duration.text (decimal (1500 : Nat))).seconds 0) (1500 / 1000) := by
  have hn : 1500 < 2 ^ 53 := by norm_num
  exact ⟨hn, (((seconds_exact_iff hn).1 _ 0 (.inr rfl)).1).2 (.inr ⟨15, 2, by norm_num, rfl⟩)⟩

/-- The last millisecond of a thousand seconds is lost. -/
theorem not_gives_seventhDigit : ¬Gives ((Duration.whole 1000001).seconds 0) (1000001 / 1000) := by
  intro h
  have hseconds : (Duration.whole 1000001).seconds 0 = .ok (decimal 1000) := by decide +kernel
  have hunique := h.unique ⟨_, hseconds, Php.numeric_decimal 1000⟩
  norm_num at hunique

end CestExport.Duration
