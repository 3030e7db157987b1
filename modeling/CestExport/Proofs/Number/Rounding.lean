import CestExport.Number.Binary64
import Mathlib.Algebra.Order.Field.Basic
import Mathlib.Algebra.Order.Field.Power
import Mathlib.Tactic.FieldSimp
import Mathlib.Tactic.Linarith
import Mathlib.Tactic.NormNum.Pow
import Mathlib.Tactic.Ring

/-!
# Rounding to binary64

A rational number is rounded once.  It becomes infinite from the middle between the
greatest finite number and the next power of two on; below that it becomes finite,
and a number that binary64 has is not changed.

    |roundQuotient n d - n / d| ≤ 1 / 2                            (abs_roundQuotient_sub_le)
    2 ^ k ≤ n / d < 2 ^ (k + 1)  for  k = binaryExponent n d          (binaryExponent_bounds)
    Rounded negative (n / d) (ofRatio negative n d)                        (rounded_ofRatio)
    Rounded negative (m · 10 ^ e) (ofDecimal negative m e)               (rounded_ofDecimal)
-/

namespace CestExport.Number

/-! ## Algorithm -/

/-- The least number that is rounded to infinity, `2 ^ 1024 - 2 ^ 970`. -/
def overflowBound : ℚ := (2 ^ 54 - 1) * 2 ^ 970

/-- A number that binary64 has, up to its sign. -/
def IsBinary64 (q : ℚ) : Prop :=
  ∃ (m : Nat) (e : Int), m < 2 ^ 53 ∧ -1074 ≤ e ∧ e ≤ 971 ∧ |q| = m * 2 ^ e

/-- A number without sign and what it is rounded to. -/
inductive Rounded (negative : Bool) (q : ℚ) : Binary64 → Prop
  | finite {m : Nat} {e : Int} : q < overflowBound → m < 2 ^ 53 → e ≤ 971 →
    (IsBinary64 q → m * 2 ^ e = q) → Rounded negative q (.finite negative m e)
  | infinite : overflowBound ≤ q → Rounded negative q (.infinite negative)

/-! ## Quotients -/

theorem roundQuotient_mul (q : Nat) {d : Nat} (hd : 0 < d) : roundQuotient (q * d) d = q := by
  have hquotient : q * d / d = q := Nat.mul_div_cancel q hd
  have hrest : q * d % d = 0 := Nat.mul_mod_left q d
  simp only [roundQuotient, hquotient, hrest]
  rw [if_pos (by omega)]

/-- A quotient is rounded up to an even number from the middle below it on. -/
theorem le_roundQuotient_iff {n d t : Nat} (hd : 0 < d) (ht : 0 < t) (heven : t % 2 = 0) :
    t ≤ roundQuotient n d ↔ (2 * t - 1) * d ≤ 2 * n := by
  have hdivide : d * (n / d) + n % d = n := Nat.div_add_mod n d
  have hrest : n % d < d := Nat.mod_lt n hd
  obtain ⟨q, hq⟩ : ∃ q, q = n / d := ⟨_, rfl⟩
  obtain ⟨r, hr⟩ : ∃ r, r = n % d := ⟨_, rfl⟩
  simp only [roundQuotient, ← hq, ← hr] at hdivide hrest ⊢
  have hsplit : (2 * t - 1) * d + d = 2 * t * d := by
    rw [← Nat.succ_mul]
    congr 1
    omega
  rcases Nat.lt_trichotomy (q + 1) t with hlt | heq | hgt
  · -- one more than the quotient is still below the even number
    have hmul : (q + 2) * d ≤ t * d := Nat.mul_le_mul_right d (by omega)
    have hdouble : 2 * t * d = 2 * (t * d) := Nat.mul_assoc 2 t d
    have hexpand : (q + 2) * d = d * q + 2 * d := by rw [Nat.add_mul, Nat.mul_comm q d]
    refine iff_of_false ?_ ?_
    · split
      · omega
      · split
        · omega
        · omega
    · omega
  · have hexpand : 2 * t * d = 2 * (d * q) + 2 * d := by
      rw [← heq, Nat.mul_assoc, Nat.add_mul, Nat.mul_comm q d]
      omega
    split
    · omega
    · split
      · omega
      · omega
  · have hmul : t * d ≤ q * d := Nat.mul_le_mul_right d (by omega)
    have hdouble : 2 * t * d = 2 * (t * d) := Nat.mul_assoc 2 t d
    have hcomm : q * d = d * q := Nat.mul_comm q d
    refine iff_of_true ?_ ?_
    · split
      · omega
      · split
        · omega
        · omega
    · omega

theorem roundQuotient_le {n d t : Nat} (hd : 0 < d) (h : n < t * d) : roundQuotient n d ≤ t := by
  have hquotient : n / d < t := (Nat.div_lt_iff_lt_mul hd).2 h
  simp only [roundQuotient]
  split
  · omega
  · split
    · omega
    · omega

/-- A quotient is changed by at most a half. -/
theorem abs_roundQuotient_sub_le (n : Nat) {d : Nat} (hd : 0 < d) :
    |(roundQuotient n d : ℚ) - n / d| ≤ 1 / 2 := by
  have hbounds : 2 * (roundQuotient n d * d) ≤ 2 * n + d ∧
      2 * n ≤ 2 * (roundQuotient n d * d) + d := by
    have hdivide : d * (n / d) + n % d = n := Nat.div_add_mod n d
    have hrest : n % d < d := Nat.mod_lt n hd
    have hzero : n / d * d = d * (n / d) := Nat.mul_comm _ _
    have hone : (n / d + 1) * d = d * (n / d) + d := by rw [Nat.add_mul, hzero, Nat.one_mul]
    simp only [roundQuotient]
    split
    · omega
    · split
      · omega
      · rcases Nat.mod_two_eq_zero_or_one (n / d) with heven | hodd
        · rw [heven, Nat.add_zero]
          omega
        · rw [hodd]
          omega
  have hdq : (0 : ℚ) < d := by exact_mod_cast hd
  have hupper : 2 * ((roundQuotient n d : ℚ) * d) ≤ 2 * n + d := by exact_mod_cast hbounds.1
  have hlower : 2 * (n : ℚ) ≤ 2 * (roundQuotient n d * d) + d := by exact_mod_cast hbounds.2
  have hquotient : (roundQuotient n d : ℚ) - n / d = (roundQuotient n d * d - n) / d := by
    field_simp
  rw [hquotient, abs_div, abs_of_pos hdq, div_le_iff₀ hdq, abs_le]
  constructor
  · linarith
  · linarith

/-- A quotient less than a half away from a whole number is rounded to it. -/
theorem roundQuotient_eq {n d t : Nat} (hd : 0 < d) (h : |(n / d : ℚ) - t| < 1 / 2) :
    roundQuotient n d = t := by
  have hless : |((roundQuotient n d : Int) - t : ℚ)| < 1 := by
    calc |((roundQuotient n d : Int) - t : ℚ)|
      _ = |((roundQuotient n d : ℚ) - n / d) + (n / d - t)| := by
        rw [Int.cast_natCast]
        congr 1
        ring
      _ ≤ |(roundQuotient n d : ℚ) - n / d| + |(n / d : ℚ) - t| := abs_add_le _ _
      _ < 1 / 2 + 1 / 2 := add_lt_add_of_le_of_lt (abs_roundQuotient_sub_le n hd) h
      _ = 1 := by norm_num
  have hwhole : |(roundQuotient n d : Int) - t| < 1 := by exact_mod_cast hless
  rw [Int.abs_lt_one_iff] at hwhole
  omega

theorem cast_twoTo (k : Nat) : ((twoTo k : Nat) : ℚ) = 2 ^ k := by
  show ((2 ^ k : Nat) : ℚ) = 2 ^ k
  norm_num

theorem cast_tenTo (k : Nat) : ((tenTo k : Nat) : ℚ) = 10 ^ k := by
  show ((10 ^ k : Nat) : ℚ) = 10 ^ k
  norm_num

/-! ## Scaling -/

/-- The power that a quotient lies at is that of its parts, or the one below. -/
theorem quotient_bounds {B n d : ℚ} {i j : Int} (hB : 1 < B) (hn : B ^ i ≤ n)
    (hn' : n < B ^ (i + 1)) (hd : B ^ j ≤ d) (hd' : d < B ^ (j + 1)) :
    B ^ (i - j - 1) ≤ n / d ∧ n / d < B ^ (i - j + 1) := by
  have hbase : 0 < B := one_pos.trans hB
  have hpos : 0 < d := (zpow_pos hbase j).trans_le hd
  constructor
  · have hpower : B ^ (i - j - 1) * B ^ (j + 1) = B ^ i := by
      rw [← zpow_add₀ hbase.ne']
      congr 1
      omega
    rw [le_div_iff₀ hpos]
    calc B ^ (i - j - 1) * d ≤ B ^ (i - j - 1) * B ^ (j + 1) :=
          mul_le_mul_of_nonneg_left hd'.le (zpow_pos hbase _).le
      _ ≤ n := hpower ▸ hn
  · have hpower : B ^ (i - j + 1) * B ^ j = B ^ (i + 1) := by
      rw [← zpow_add₀ hbase.ne']
      congr 1
      omega
    rw [div_lt_iff₀ hpos]
    calc n < B ^ (i - j + 1) * B ^ j := hpower ▸ hn'
      _ ≤ B ^ (i - j + 1) * d := mul_le_mul_of_nonneg_left hd (zpow_pos hbase _).le

section

variable {n d : Nat} (hd : 0 < d)
include hd

theorem scaleDown_pos (e : Int) : 0 < (scaleDown n d e).2 := by
  unfold scaleDown
  split
  · exact Nat.mul_pos hd (twoTo_pos _)
  · exact hd

theorem scaleDown_eq (e : Int) :
    ((scaleDown n d e).1 : ℚ) / (scaleDown n d e).2 = n / d / 2 ^ e := by
  have hne : (d : ℚ) ≠ 0 := by exact_mod_cast hd.ne'
  unfold scaleDown
  split
  next he =>
    obtain ⟨k, rfl⟩ := Int.eq_ofNat_of_zero_le he
    rw [Int.toNat_natCast, Nat.cast_mul, cast_twoTo, zpow_natCast]
    field_simp
  next he =>
    obtain ⟨k, hk⟩ := Int.eq_ofNat_of_zero_le (show 0 ≤ -e by omega)
    have hpower : (2 : ℚ) ^ e = (2 ^ k)⁻¹ := by
      rw [show e = -(k : Int) by omega, zpow_neg, zpow_natCast]
    rw [hk, Int.toNat_natCast, Nat.cast_mul, cast_twoTo, hpower]
    field_simp

theorem binaryExponent_bounds (hn : 0 < n) :
    (2 : ℚ) ^ binaryExponent n d ≤ n / d ∧ (n / d : ℚ) < 2 ^ (binaryExponent n d + 1) := by
  have hlog : ∀ {a : Nat}, 0 < a →
      (2 : ℚ) ^ (a.log2 : Int) ≤ a ∧ (a : ℚ) < 2 ^ ((a.log2 : Int) + 1) := by
    intro a ha
    refine ⟨by exact_mod_cast Nat.log2_self_le ha.ne', ?_⟩
    exact_mod_cast Nat.lt_log2_self (n := a)
  obtain ⟨k, hk⟩ : ∃ k : Int, k = n.log2 - d.log2 := ⟨_, rfl⟩
  obtain ⟨hlower, hupper⟩ := quotient_bounds (B := (2 : ℚ)) (by norm_num)
    (hlog hn).1 (hlog hn).2 (hlog hd).1 (hlog hd).2
  rw [← hk] at hlower hupper
  have hcompare : (scaleDown n d k).2 ≤ (scaleDown n d k).1 ↔ (2 : ℚ) ^ k ≤ n / d := by
    have hpos : (0 : ℚ) < (scaleDown n d k).2 := by exact_mod_cast scaleDown_pos hd k
    rw [← one_le_div (show (0 : ℚ) < 2 ^ k by positivity), ← scaleDown_eq hd, one_le_div hpos]
    norm_cast
  simp only [binaryExponent, ← hk]
  split
  next hle => exact ⟨hcompare.1 hle, hupper⟩
  next hlt =>
    have hbelow : (n / d : ℚ) < 2 ^ k := not_le.1 fun h => hlt (hcompare.2 h)
    rw [show k - 1 + 1 = k by omega]
    exact ⟨hlower, hbelow⟩

end

/-! ## Numbers that binary64 has -/

/-- The exponent to which a number is rounded suffices for a number that binary64 has. -/
theorem IsBinary64.exists_mantissa {q : ℚ} {k e : Int} (h : IsBinary64 q) (hq : 0 ≤ q)
    (hlow : (2 : ℚ) ^ k ≤ q) (hhigh : q < 2 ^ (k + 1)) (he : e = max (k - 52) (-1074)) :
    ∃ m : Nat, m < 2 ^ 53 ∧ q = m * 2 ^ e := by
  obtain ⟨m, f, hm, hf, _, hvalue⟩ := h
  rw [abs_of_nonneg hq] at hvalue
  have hbelow : (2 : ℚ) ^ k < 2 ^ (53 + f) := by
    calc (2 : ℚ) ^ k ≤ m * 2 ^ f := hvalue ▸ hlow
      _ < 2 ^ (53 : Nat) * 2 ^ f :=
          mul_lt_mul_of_pos_right (by exact_mod_cast hm) (by positivity)
      _ = 2 ^ (53 + f) := by rw [zpow_add₀ (by norm_num)]; norm_num
  have hexponent : k < 53 + f := (zpow_lt_zpow_iff_right₀ (by norm_num)).1 hbelow
  obtain ⟨i, hi⟩ := Int.eq_ofNat_of_zero_le (show 0 ≤ f - e by omega)
  have hshift : q = ((m * 2 ^ i : Nat) : ℚ) * 2 ^ e := by
    rw [hvalue, show f = i + e by omega, zpow_add₀ (by norm_num), zpow_natCast]
    push_cast
    ring
  refine ⟨m * 2 ^ i, ?_, hshift⟩
  have hmantissa : ((m * 2 ^ i : Nat) : ℚ) * 2 ^ e < 2 ^ (53 : Nat) * 2 ^ e := by
    calc ((m * 2 ^ i : Nat) : ℚ) * 2 ^ e < 2 ^ (k + 1) := hshift ▸ hhigh
      _ ≤ 2 ^ (53 + e) := zpow_le_zpow_right₀ (by norm_num) (by omega)
      _ = 2 ^ (53 : Nat) * 2 ^ e := by rw [zpow_add₀ (by norm_num)]; norm_num
  have hcast := lt_of_mul_lt_mul_right hmantissa (by positivity)
  exact_mod_cast hcast

theorem overflowBound_pos : 0 < overflowBound :=
  mul_pos (by norm_num) (by positivity)

theorem overflowBound_eq : overflowBound = (2 ^ 53 - 1 / 2) * 2 ^ (971 : Int) := by
  have hpower : (2 : ℚ) ^ (971 : Int) = 2 ^ 970 * 2 := by
    rw [show (971 : Int) = ((970 + 1 : Nat) : Int) from rfl, zpow_natCast, pow_succ]
  rw [hpower, overflowBound]
  generalize (2 : ℚ) ^ 970 = c
  linarith

theorem overflowBound_le : overflowBound ≤ 2 ^ (1024 : Int) := by
  have hpower : (2 : ℚ) ^ (1024 : Int) = 2 ^ 54 * 2 ^ 970 := by
    rw [show (1024 : Int) = ((54 + 970 : Nat) : Int) from rfl, zpow_natCast, pow_add]
  rw [hpower, overflowBound]
  exact mul_le_mul_of_nonneg_right (by norm_num) (by positivity)

/-- A full mantissa with the greatest exponent is below the bound. -/
theorem mantissa_lt_overflowBound {m : Nat} {e : Int} (hm : m < 2 ^ 53) (he : e ≤ 971) :
    (m : ℚ) * 2 ^ e < overflowBound := by
  have hmantissa : (m : ℚ) ≤ 2 ^ 53 - 1 := by
    have hcast : ((m + 1 : Nat) : ℚ) ≤ ((2 ^ 53 : Nat) : ℚ) := by exact_mod_cast hm
    push_cast at hcast
    linarith
  have hpower : (2 : ℚ) ^ e ≤ 2 ^ (971 : Int) := zpow_le_zpow_right₀ (by norm_num) he
  have hpos : (0 : ℚ) < 2 ^ (971 : Int) := by positivity
  rw [overflowBound_eq]
  calc (m : ℚ) * 2 ^ e
    _ ≤ (2 ^ 53 - 1) * 2 ^ (971 : Int) :=
      mul_le_mul hmantissa hpower (by positivity) (by norm_num)
    _ < (2 ^ 53 - 1 / 2) * 2 ^ (971 : Int) := mul_lt_mul_of_pos_right (by norm_num) hpos

/-- What binary64 has is not rounded to infinity. -/
theorem IsBinary64.lt_overflowBound {q : ℚ} (h : IsBinary64 q) : |q| < overflowBound := by
  obtain ⟨m, e, hm, -, he, hq⟩ := h
  rw [hq]
  exact mantissa_lt_overflowBound hm he

theorem isBinary64_of_lt {n : Nat} (h : n < 2 ^ 53) : IsBinary64 n :=
  ⟨n, 0, h, by norm_num, by norm_num, by simp⟩

/-! ## Mantissas -/

section

variable {a b : Nat} (hb : 0 < b) (h : (a : ℚ) / b < 2 ^ 53)
include hb h

theorem roundQuotient_le_full : roundQuotient a b ≤ 2 ^ 53 := by
  have hbq : (0 : ℚ) < b := by exact_mod_cast hb
  rw [div_lt_iff₀ hbq] at h
  exact roundQuotient_le hb (by exact_mod_cast h)

/-- A mantissa is full, so that the exponent has to grow, from half a unit below on. -/
theorem roundQuotient_eq_full_iff :
    roundQuotient a b = 2 ^ 53 ↔ 2 ^ 53 - 1 / 2 ≤ (a : ℚ) / b := by
  have hbq : (0 : ℚ) < b := by exact_mod_cast hb
  have hupper := roundQuotient_le_full hb h
  have hmiddle := le_roundQuotient_iff (n := a) (t := 2 ^ 53) hb (by norm_num) (by norm_num)
  have hcast : (2 * 2 ^ 53 - 1) * b ≤ 2 * a ↔ (2 ^ 53 - 1 / 2) * (b : ℚ) ≤ a := by
    rw [← Nat.cast_le (α := ℚ)]
    push_cast
    constructor
    · intro h
      linarith
    · intro h
      linarith
  rw [le_div_iff₀ hbq, ← hcast, ← hmiddle]
  omega

end

namespace Binary64

/-! ## Rounding -/

theorem rounded_zero (negative : Bool) : Rounded negative 0 (zero negative) :=
  .finite overflowBound_pos (by norm_num) (by norm_num) fun _ => by norm_num

theorem ofRatio_eq (negative : Bool) {n d : Nat} (hn : 0 < n) {e : Int}
    (he : e = max (binaryExponent n d - 52) (-1074)) :
    let m := roundQuotient (scaleDown n d e).1 (scaleDown n d e).2
    ofRatio negative n d =
      if m = 2 ^ 53 then
        if 971 < e + 1 then .infinite negative else .finite negative (2 ^ 52) (e + 1)
      else if 971 < e then .infinite negative
      else .finite negative m e := by
  have hfull : ∀ m : Nat, m = twoTo 53 ↔ m = 2 ^ 53 := fun m => Iff.rfl
  simp only [ofRatio, if_neg hn.ne', ← he, hfull]
  split
  · rfl
  · rfl

theorem rounded_ofRatio (negative : Bool) (n : Nat) {d : Nat} (hd : 0 < d) :
    Rounded negative (n / d) (ofRatio negative n d) := by
  rcases Nat.eq_zero_or_pos n with rfl | hn
  · rw [ofRatio, if_pos rfl, Nat.cast_zero, zero_div]
    exact rounded_zero negative
  obtain ⟨hlow, hhigh⟩ := binaryExponent_bounds hd hn
  obtain ⟨e, he⟩ : ∃ e, e = max (binaryExponent n d - 52) (-1074) := ⟨_, rfl⟩
  have hresult := ofRatio_eq negative hn he
  have hscale := scaleDown_eq (n := n) hd e
  have hb := scaleDown_pos (n := n) hd e
  generalize (scaleDown n d e).1 = a at hresult hscale
  generalize (scaleDown n d e).2 = b at hresult hscale hb
  generalize binaryExponent n d = k at hlow hhigh he
  generalize (n / d : ℚ) = q at hlow hhigh hscale ⊢
  have hpower : (0 : ℚ) < 2 ^ e := by positivity
  have hbelow : (a : ℚ) / b < 2 ^ 53 := by
    rw [hscale, div_lt_iff₀ hpower]
    calc q < 2 ^ (k + 1) := hhigh
      _ ≤ 2 ^ (53 + e) := zpow_le_zpow_right₀ (by norm_num) (by omega)
      _ = 2 ^ 53 * 2 ^ e := by rw [zpow_add₀ (by norm_num)]; norm_num
  have hfull := roundQuotient_eq_full_iff hb hbelow
  have hupper := roundQuotient_le_full hb hbelow
  rw [hscale, le_div_iff₀ hpower] at hfull
  rw [hscale, div_lt_iff₀ hpower] at hbelow
  have hexact : IsBinary64 q → ((roundQuotient a b : Nat) : ℚ) * 2 ^ e = q ∧
      roundQuotient a b ≠ 2 ^ 53 := by
    intro h
    have hq : 0 ≤ q := le_trans (by positivity) hlow
    obtain ⟨m, hm, hmantissa⟩ := h.exists_mantissa hq hlow hhigh he
    have hbq : (b : ℚ) ≠ 0 := by exact_mod_cast hb.ne'
    have hab : (a : ℚ) = m * b := by
      rw [hmantissa, mul_div_cancel_right₀ _ hpower.ne'] at hscale
      exact (div_eq_iff hbq).1 hscale
    have hround : roundQuotient a b = m := by
      rw [show a = m * b by exact_mod_cast hab]
      exact roundQuotient_mul m hb
    rw [hround]
    exact ⟨hmantissa.symm, by omega⟩
  rw [hresult]
  split
  next hcarry =>
    split
    next hhuge =>
      refine .infinite ?_
      have hmono : (2 : ℚ) ^ (971 : Int) ≤ 2 ^ e := zpow_le_zpow_right₀ (by norm_num) (by omega)
      rw [overflowBound_eq]
      exact (mul_le_mul_of_nonneg_left hmono (by norm_num)).trans (hfull.1 hcarry)
    next hsmall =>
      refine .finite ?_ (by norm_num) (by omega) fun h => absurd hcarry (hexact h).2
      have hmono : (2 : ℚ) ^ (e + 1) ≤ 2 ^ (971 : Int) :=
        zpow_le_zpow_right₀ (by norm_num) (by omega)
      rw [zpow_add_one₀ (by norm_num)] at hmono
      rw [overflowBound_eq]
      generalize (2 : ℚ) ^ (971 : Int) = c at hmono ⊢
      linarith
  next hcarry =>
    have hless : q < (2 ^ 53 - 1 / 2) * 2 ^ e := not_le.1 fun h => hcarry (hfull.2 h)
    split
    next hhuge =>
      have hmono : (2 : ℚ) ^ (1024 : Int) ≤ 2 ^ k := zpow_le_zpow_right₀ (by norm_num) (by omega)
      exact .infinite (overflowBound_le.trans (hmono.trans hlow))
    next hsmall =>
      refine .finite ?_ (by omega) (by omega) fun h => (hexact h).1
      have hmono : (2 : ℚ) ^ e ≤ 2 ^ (971 : Int) := zpow_le_zpow_right₀ (by norm_num) (by omega)
      rw [overflowBound_eq]
      exact hless.trans_le (mul_le_mul_of_nonneg_left hmono (by norm_num))

/-- In the range of full mantissas a number is changed by less than one part in `2 ^ 53`. -/
theorem exists_ofRatio (negative : Bool) {n d : Nat} (hd : 0 < d)
    (hlow : (2 : ℚ) ^ (-1022 : Int) ≤ n / d) (hhigh : (n / d : ℚ) < 2 ^ (1023 : Int)) :
    ∃ (m : Nat) (e : Int), ofRatio negative n d = .finite negative m e ∧
      |m * 2 ^ e - (n / d : ℚ)| ≤ n / d / 2 ^ 53 := by
  have hn : 0 < n := by
    refine Nat.pos_of_ne_zero fun hzero => ?_
    rw [hzero, Nat.cast_zero, zero_div] at hlow
    exact absurd hlow (not_le.2 (by positivity))
  obtain ⟨hlower, hupper⟩ := binaryExponent_bounds hd hn
  obtain ⟨e, he⟩ : ∃ e, e = max (binaryExponent n d - 52) (-1074) := ⟨_, rfl⟩
  have hresult := ofRatio_eq negative hn he
  have hscale := scaleDown_eq (n := n) hd e
  have hb := scaleDown_pos (n := n) hd e
  generalize (scaleDown n d e).1 = a at hresult hscale
  generalize (scaleDown n d e).2 = b at hresult hscale hb
  generalize binaryExponent n d = k at hlower hupper he
  generalize (n / d : ℚ) = q at hlow hhigh hlower hupper hscale ⊢
  have hleast : -1023 < k := by
    have hless := (zpow_lt_zpow_iff_right₀ (by norm_num : (1 : ℚ) < 2)).1 (hlow.trans_lt hupper)
    omega
  have hgreatest : k < 1023 :=
    (zpow_lt_zpow_iff_right₀ (by norm_num : (1 : ℚ) < 2)).1 (hlower.trans_lt hhigh)
  obtain rfl : e = k - 52 := by omega
  have hpower : (0 : ℚ) < 2 ^ (k - 52) := by positivity
  have herror : |(roundQuotient a b : ℚ) * 2 ^ (k - 52) - q| ≤ q / 2 ^ 53 := by
    have hround := abs_roundQuotient_sub_le a hb
    rw [hscale] at hround
    have hfactor : (roundQuotient a b : ℚ) * 2 ^ (k - 52) - q =
        (roundQuotient a b - q / 2 ^ (k - 52)) * 2 ^ (k - 52) := by
      rw [sub_mul, div_mul_cancel₀ q hpower.ne']
    have hunit : (1 / 2 : ℚ) * 2 ^ (k - 52) = 2 ^ k / 2 ^ 53 := by
      rw [zpow_sub₀ (by norm_num)]
      norm_num
      ring
    rw [hfactor, abs_mul, abs_of_pos hpower]
    calc |(roundQuotient a b : ℚ) - q / 2 ^ (k - 52)| * 2 ^ (k - 52)
      _ ≤ 1 / 2 * 2 ^ (k - 52) := mul_le_mul_of_nonneg_right hround hpower.le
      _ = 2 ^ k / 2 ^ 53 := hunit
      _ ≤ q / 2 ^ 53 := div_le_div_of_nonneg_right hlower (by norm_num)
  rw [hresult]
  split
  next hcarry =>
    rw [if_neg (by omega)]
    refine ⟨_, _, rfl, ?_⟩
    have hvalue : ((2 ^ 52 : Nat) : ℚ) * 2 ^ (k - 52 + 1) =
        (roundQuotient a b : ℚ) * 2 ^ (k - 52) := by
      rw [hcarry, zpow_add_one₀ (by norm_num)]
      push_cast
      ring
    rw [hvalue]
    exact herror
  next =>
    rw [if_neg (by omega)]
    exact ⟨_, _, rfl, herror⟩

/-! ## Decimal numbers -/

theorem length_toDigits_bounds {m : Nat} (hm : 0 < m) :
    (10 : ℚ) ^ ((Nat.toDigits 10 m).length - 1 : Int) ≤ m ∧
      (m : ℚ) < 10 ^ ((Nat.toDigits 10 m).length : Int) := by
  obtain ⟨k, hk⟩ : ∃ k, (Nat.toDigits 10 m).length = k + 1 :=
    ⟨_, (Nat.succ_pred_eq_of_pos Nat.length_toDigits_pos).symm⟩
  have hupper : m < 10 ^ (k + 1) :=
    (Nat.length_toDigits_le_iff (by norm_num) (by omega)).1 hk.le
  have hlower : 10 ^ k ≤ m := by
    rcases Nat.eq_zero_or_pos k with rfl | hpos
    · exact hm
    · have hlength := mt (Nat.length_toDigits_le_iff (n := m) (by norm_num : 1 < 10) hpos).2
      exact not_lt.1 (hlength (by omega))
  rw [hk]
  constructor
  · rw [show ((k + 1 : Nat) - 1 : Int) = (k : Int) by push_cast; omega, zpow_natCast]
    exact_mod_cast hlower
  · rw [zpow_natCast]
    exact_mod_cast hupper

theorem two_zpow_le_ten_zpow : (2 : ℚ) ^ (1200 : Int) ≤ 10 ^ (400 : Int) := by
  have hpower : (2 : ℚ) ^ (1200 : Int) = (2 ^ 3) ^ 400 := by
    rw [← pow_mul, ← zpow_natCast]
    rfl
  have hmono : ((2 : ℚ) ^ 3) ^ 400 ≤ 10 ^ 400 :=
    pow_le_pow_left₀ (by norm_num) (by norm_num) 400
  rw [hpower]
  exact_mod_cast hmono

/-- Numbers that are not zero but as small as this are none that binary64 has. -/
theorem eq_zero_of_small {q : ℚ} (h : IsBinary64 q) (hq : 0 ≤ q)
    (hsmall : q < 10 ^ (-400 : Int)) : q = 0 := by
  obtain ⟨m, e, _, he, _, hvalue⟩ := h
  rw [abs_of_nonneg hq] at hvalue
  rcases Nat.eq_zero_or_pos m with rfl | hm
  · rw [hvalue, Nat.cast_zero, zero_mul]
  · have hone : (1 : ℚ) ≤ m := by exact_mod_cast hm
    have hleast : (10 : ℚ) ^ (-400 : Int) ≤ q := by
      calc (10 : ℚ) ^ (-400 : Int) ≤ 2 ^ (-1200 : Int) := by
            rw [zpow_neg, zpow_neg]
            exact inv_anti₀ (by positivity) two_zpow_le_ten_zpow
        _ ≤ 2 ^ e := zpow_le_zpow_right₀ (by norm_num) (by omega)
        _ ≤ m * 2 ^ e := le_mul_of_one_le_left (by positivity) hone
        _ = q := hvalue.symm
    exact absurd hleast hsmall.not_ge

theorem rounded_ofDecimal (negative : Bool) (m : Nat) (e : Int) :
    Rounded negative (m * 10 ^ e) (ofDecimal negative m e) := by
  rcases Nat.eq_zero_or_pos m with rfl | hm
  · rw [ofDecimal, if_pos rfl, Nat.cast_zero, zero_mul]
    exact rounded_zero negative
  obtain ⟨hlow, hhigh⟩ := length_toDigits_bounds hm
  obtain ⟨size, hsize⟩ : ∃ size : Int, size = (Nat.toDigits 10 m).length + e := ⟨_, rfl⟩
  have hpower : (0 : ℚ) < 10 ^ e := by positivity
  have hlower : (10 : ℚ) ^ (size - 1) ≤ m * 10 ^ e := by
    rw [show size - 1 = ((Nat.toDigits 10 m).length - 1 : Int) + e by omega,
      zpow_add₀ (by norm_num)]
    exact mul_le_mul_of_nonneg_right hlow hpower.le
  have hupper : (m : ℚ) * 10 ^ e < 10 ^ size := by
    rw [hsize, zpow_add₀ (by norm_num)]
    exact mul_lt_mul_of_pos_right hhigh hpower
  simp only [ofDecimal, if_neg hm.ne', ← hsize]
  split
  next hlarge =>
    have hbound : (10 : ℚ) ^ (400 : Int) ≤ 10 ^ (size - 1) :=
      zpow_le_zpow_right₀ (by norm_num) (by omega)
    have hpower : (2 : ℚ) ^ (1024 : Int) ≤ 2 ^ (1200 : Int) :=
      zpow_le_zpow_right₀ (by norm_num) (by norm_num)
    exact .infinite (overflowBound_le.trans
      (hpower.trans (two_zpow_le_ten_zpow.trans (hbound.trans hlower))))
  next =>
    split
    next hsmall =>
      have htiny : (m : ℚ) * 10 ^ e < 10 ^ (-400 : Int) :=
        hupper.trans_le (zpow_le_zpow_right₀ (by norm_num) (by omega))
      refine .finite ?_ (by norm_num) (by norm_num) fun h => ?_
      · have hone : (10 : ℚ) ^ (-400 : Int) ≤ 1 :=
          zpow_le_one_of_nonpos₀ (by norm_num) (by norm_num)
        have hbound : (1 : ℚ) ≤ overflowBound :=
          one_le_mul_of_one_le_of_one_le (by norm_num) (one_le_pow₀ (by norm_num))
        exact (htiny.trans_le hone).trans_le hbound
      · rw [eq_zero_of_small h (by positivity) htiny, Nat.cast_zero, zero_mul]
    next =>
      split
      next he =>
        obtain ⟨k, rfl⟩ := Int.eq_ofNat_of_zero_le he
        have hrounded := rounded_ofRatio negative (m * tenTo k) (d := 1) (by norm_num)
        rw [Nat.cast_mul, cast_tenTo, Nat.cast_one, div_one] at hrounded
        rw [zpow_natCast]
        exact hrounded
      next he =>
        obtain ⟨k, hk⟩ := Int.eq_ofNat_of_zero_le (show 0 ≤ -e by omega)
        have hrounded := rounded_ofRatio negative m (tenTo_pos k)
        rw [cast_tenTo] at hrounded
        rw [show (m : ℚ) * 10 ^ e = m / 10 ^ k by
          rw [show e = -(k : Int) by omega, zpow_neg, zpow_natCast, div_eq_mul_inv], hk]
        exact hrounded

/-! ## Whole parts -/

theorem ratio_pos (m : Nat) (e : Int) : 0 < (ratio m e).2 := by
  unfold ratio
  split
  · exact Nat.one_pos
  · exact twoTo_pos _

theorem ratio_eq (m : Nat) (e : Int) : ((ratio m e).1 : ℚ) / (ratio m e).2 = m * 2 ^ e := by
  unfold ratio
  split
  next he =>
    obtain ⟨k, rfl⟩ := Int.eq_ofNat_of_zero_le he
    rw [Int.toNat_natCast, Nat.cast_mul, cast_twoTo, zpow_natCast, Nat.cast_one, div_one]
  next he =>
    obtain ⟨k, hk⟩ := Int.eq_ofNat_of_zero_le (show 0 ≤ -e by omega)
    rw [show e = -(k : Int) by omega, zpow_neg, zpow_natCast, neg_neg, Int.toNat_natCast,
      cast_twoTo, div_eq_mul_inv]

theorem ratio_of_eq {m n : Nat} {e : Int} (h : (m : ℚ) * 2 ^ e = n) :
    (ratio m e).1 = n * (ratio m e).2 := by
  have hpos : (0 : ℚ) < (ratio m e).2 := by exact_mod_cast ratio_pos m e
  rw [← ratio_eq, div_eq_iff hpos.ne'] at h
  exact_mod_cast h

theorem truncate?_of_eq {negative : Bool} {m n : Nat} {e : Int} (h : (m : ℚ) * 2 ^ e = n) :
    truncate? (.finite negative m e) = some (if negative then -(n : Int) else n) := by
  have hquotient : (ratio m e).1 / (ratio m e).2 = n := by
    rw [ratio_of_eq h]
    exact Nat.mul_div_cancel n (ratio_pos m e)
  simp only [truncate?, hquotient]

theorem isWhole_iff {negative : Bool} {m : Nat} {e : Int} :
    isWhole (.finite negative m e) = true ↔ ∃ n : Nat, (m : ℚ) * 2 ^ e = n := by
  simp only [isWhole, beq_iff_eq]
  constructor
  · intro h
    refine ⟨(ratio m e).1 / (ratio m e).2, ?_⟩
    have hmul := Nat.div_mul_cancel (Nat.dvd_of_mod_eq_zero h)
    rw [← ratio_eq, div_eq_iff (by exact_mod_cast (ratio_pos m e).ne')]
    exact_mod_cast hmul.symm
  · rintro ⟨n, hn⟩
    rw [ratio_of_eq hn]
    exact Nat.mul_mod_left n _

/-- The whole part of a finite number is one that binary64 has. -/
theorem isBinary64_of_truncate? {negative : Bool} {m : Nat} {e i : Int} (hm : m < 2 ^ 53)
    (he : e ≤ 971) (h : truncate? (.finite negative m e) = some i) : IsBinary64 i := by
  obtain ⟨n, hn⟩ : ∃ n, n = (ratio m e).1 / (ratio m e).2 := ⟨_, rfl⟩
  have habs : |(i : ℚ)| = n := by
    simp only [truncate?, ← hn, Option.some.injEq] at h
    subst h
    split
    · push_cast
      rw [abs_neg, Nat.abs_cast]
    · rw [Int.cast_natCast, Nat.abs_cast]
  rw [IsBinary64, habs]
  unfold ratio at hn
  split at hn
  next hpos =>
    obtain ⟨k, rfl⟩ := Int.eq_ofNat_of_zero_le hpos
    rw [Int.toNat_natCast, Nat.div_one] at hn
    refine ⟨m, k, hm, by omega, he, ?_⟩
    rw [hn, Nat.cast_mul, cast_twoTo, zpow_natCast]
  next =>
    have hle : n ≤ m := hn ▸ Nat.div_le_self m _
    exact ⟨n, 0, by omega, by norm_num, by norm_num, by norm_num⟩

end Binary64

end CestExport.Number
