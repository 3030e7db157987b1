import CestExport.Number.Significant
import CestExport.Proofs.Number.Rounding

/-!
# Significant digits

A positive number rounded to a count of leading digits.  The digits are as many as
asked for, the number that they stand for is off by half a unit of the last place at
most, and a number of so few digits is met exactly, also where it is known only with
a small error.

    10 ^ k ≤ n / d < 10 ^ (k + 1)  for  k = decimalExponent n d      (decimalExponent_bounds)
    |value - n / d| ≤ n / d / 2 / 10 ^ (count - 1)              (abs_value_roundToDigits_sub)
    n / d near u · 10 ^ k  and  u < 10 ^ count  →
      value = u · 10 ^ k                                            (value_roundToDigits_eq)
-/

namespace CestExport.Number

/-! ## Algorithm -/

/-- The number that a count of leading digits stands for. -/
def Leading.value (x : Leading) (count : Nat) : ℚ := x.digits * 10 ^ (x.place - (count - 1))

/-! ## Scaling -/

section

variable {n d : Nat} (hd : 0 < d)
include hd

theorem scaleTen_pos (k : Int) : 0 < (scaleTen n d k).2 := by
  unfold scaleTen
  split
  · exact hd
  · exact Nat.mul_pos hd (tenTo_pos _)

theorem scaleTen_eq (k : Int) :
    ((scaleTen n d k).1 : ℚ) / (scaleTen n d k).2 = n / d * 10 ^ k := by
  have hne : (d : ℚ) ≠ 0 := by exact_mod_cast hd.ne'
  unfold scaleTen
  split
  next hk =>
    obtain ⟨i, rfl⟩ := Int.eq_ofNat_of_zero_le hk
    rw [Int.toNat_natCast, Nat.cast_mul, cast_tenTo, zpow_natCast]
    field_simp
  next hk =>
    obtain ⟨i, hi⟩ := Int.eq_ofNat_of_zero_le (show 0 ≤ -k by omega)
    have hpower : (10 : ℚ) ^ k = (10 ^ i)⁻¹ := by
      rw [show k = -(i : Int) by omega, zpow_neg, zpow_natCast]
    rw [hi, Int.toNat_natCast, Nat.cast_mul, cast_tenTo, hpower]
    field_simp

theorem decimalExponent_bounds (hn : 0 < n) :
    (10 : ℚ) ^ decimalExponent n d ≤ n / d ∧ (n / d : ℚ) < 10 ^ (decimalExponent n d + 1) := by
  have hlength : ∀ {a : Nat}, 0 < a → (10 : ℚ) ^ ((Nat.toDigits 10 a).length - 1 : Int) ≤ a ∧
      (a : ℚ) < 10 ^ ((Nat.toDigits 10 a).length - 1 + 1 : Int) := by
    intro a ha
    rw [sub_add_cancel]
    exact Binary64.length_toDigits_bounds ha
  obtain ⟨k, hk⟩ : ∃ k : Int, k = (Nat.toDigits 10 n).length - (Nat.toDigits 10 d).length :=
    ⟨_, rfl⟩
  obtain ⟨hlower, hupper⟩ := quotient_bounds (B := (10 : ℚ)) (by norm_num)
    (hlength hn).1 (hlength hn).2 (hlength hd).1 (hlength hd).2
  rw [sub_sub_sub_cancel_right, ← hk] at hlower hupper
  have hcompare : (scaleTen n d (-k)).2 ≤ (scaleTen n d (-k)).1 ↔ (10 : ℚ) ^ k ≤ n / d := by
    have hpos : (0 : ℚ) < (scaleTen n d (-k)).2 := by exact_mod_cast scaleTen_pos hd (-k)
    have hscale := scaleTen_eq (n := n) hd (-k)
    rw [zpow_neg, ← div_eq_mul_inv] at hscale
    rw [← one_le_div (show (0 : ℚ) < 10 ^ k by positivity), ← hscale, one_le_div hpos]
    norm_cast
  simp only [decimalExponent, ← hk]
  split
  next hle => exact ⟨hcompare.1 hle, hupper⟩
  next hlt =>
    have hbelow : (n / d : ℚ) < 10 ^ k := not_le.1 fun h => hlt (hcompare.2 h)
    rw [show k - 1 + 1 = k by omega]
    exact ⟨hlower, hbelow⟩

end

/-! ## Rounding -/

/-- A number as leading digits before they are rounded: so many of them in front of the point. -/
def scaled (count n d : Nat) : Nat × Nat := scaleTen n d (count - 1 - decimalExponent n d)

theorem roundToDigits_eq (count n d : Nat) : roundToDigits count n d =
    if roundQuotient (scaled count n d).1 (scaled count n d).2 = tenTo count then
      ⟨tenTo (count - 1), decimalExponent n d + 1⟩
    else ⟨roundQuotient (scaled count n d).1 (scaled count n d).2, decimalExponent n d⟩ := rfl

section

variable {count n d : Nat} (hcount : 0 < count)
include hcount

/-- A power of ten that takes one digit more stands for the same number a place higher. -/
theorem value_roundToDigits : (roundToDigits count n d).value count =
    roundQuotient (scaled count n d).1 (scaled count n d).2 *
      10 ^ (decimalExponent n d - (count - 1)) := by
  rw [roundToDigits_eq]
  split
  next hcarry =>
    have hcast : ((count - 1 : Nat) : Int) = count - 1 := by omega
    rw [hcarry, Leading.value, cast_tenTo, cast_tenTo, ← zpow_natCast, ← zpow_natCast,
      ← zpow_add₀ (by norm_num), ← zpow_add₀ (by norm_num), hcast]
    show (10 : ℚ) ^ (count - 1 + (decimalExponent n d + 1 - (count - 1)) : Int) = _
    congr 1
    omega
  next => rfl

variable (hd : 0 < d) (hn : 0 < n)
include hd hn

theorem scaled_bounds : (10 : ℚ) ^ (count - 1) ≤ ((scaled count n d).1 / (scaled count n d).2 : ℚ) ∧
    ((scaled count n d).1 / (scaled count n d).2 : ℚ) < 10 ^ count := by
  obtain ⟨hlower, hupper⟩ := decimalExponent_bounds hd hn
  have hpower : (0 : ℚ) < 10 ^ (count - 1 - decimalExponent n d : Int) := by positivity
  have hcast : ((count - 1 : Nat) : Int) = count - 1 := by omega
  rw [scaled, scaleTen_eq hd]
  constructor
  · calc (10 : ℚ) ^ (count - 1)
      _ = 10 ^ decimalExponent n d * 10 ^ (count - 1 - decimalExponent n d : Int) := by
        rw [← zpow_add₀ (by norm_num), ← zpow_natCast, hcast]
        congr 1
        omega
      _ ≤ _ := mul_le_mul_of_nonneg_right hlower hpower.le
  · calc (n / d : ℚ) * 10 ^ (count - 1 - decimalExponent n d : Int)
      _ < 10 ^ (decimalExponent n d + 1) * 10 ^ (count - 1 - decimalExponent n d : Int) :=
        mul_lt_mul_of_pos_right hupper hpower
      _ = 10 ^ count := by
        rw [← zpow_add₀ (by norm_num), ← zpow_natCast]
        congr 1
        omega

/-- There are as many digits as asked for. -/
theorem digits_roundToDigits_bounds : 10 ^ (count - 1) ≤ (roundToDigits count n d).digits ∧
    (roundToDigits count n d).digits < 10 ^ count := by
  obtain ⟨hlower, hupper⟩ := scaled_bounds hcount hd hn
  have hb : 0 < (scaled count n d).2 := scaleTen_pos hd _
  have hround := abs_roundQuotient_sub_le (scaled count n d).1 hb
  have hle : roundQuotient (scaled count n d).1 (scaled count n d).2 ≤ 10 ^ count := by
    rw [div_lt_iff₀ (by exact_mod_cast hb)] at hupper
    exact roundQuotient_le hb (by exact_mod_cast hupper)
  have hge : 10 ^ (count - 1) ≤ roundQuotient (scaled count n d).1 (scaled count n d).2 := by
    have hless : ((10 ^ (count - 1) : Nat) : ℚ) <
        (roundQuotient (scaled count n d).1 (scaled count n d).2 + 1 : Nat) := by
      push_cast
      linarith [(abs_le.1 hround).1]
    have hless := Nat.cast_lt.1 hless
    omega
  rw [roundToDigits_eq]
  split
  next => exact ⟨le_refl _, Nat.pow_lt_pow_right (by norm_num) (by omega)⟩
  next hcarry => exact ⟨hge, lt_of_le_of_ne hle hcarry⟩

/-- The digits stand for a number that is off by half a unit of the last place at most. -/
theorem abs_value_roundToDigits_sub : |(roundToDigits count n d).value count - n / d| ≤
    n / d / 2 / 10 ^ (count - 1) := by
  have hb : 0 < (scaled count n d).2 := scaleTen_pos hd _
  have hround := abs_roundQuotient_sub_le (scaled count n d).1 hb
  obtain ⟨e, he⟩ : ∃ e : Int, e = decimalExponent n d - (count - 1) := ⟨_, rfl⟩
  have hpower : (0 : ℚ) < 10 ^ e := by positivity
  have hunit : (10 : ℚ) ^ e ≤ n / d / 10 ^ (count - 1) := by
    have hcast : ((count - 1 : Nat) : Int) = count - 1 := by omega
    rw [le_div_iff₀ (by positivity), ← zpow_natCast, ← zpow_add₀ (by norm_num), hcast,
      show e + (count - 1) = decimalExponent n d by omega]
    exact (decimalExponent_bounds hd hn).1
  have hscale : (n / d : ℚ) = (scaled count n d).1 / (scaled count n d).2 * 10 ^ e := by
    rw [scaled, scaleTen_eq hd, mul_assoc, ← zpow_add₀ (by norm_num),
      show (count - 1 - decimalExponent n d : Int) + e = 0 by omega, zpow_zero, mul_one]
  rw [value_roundToDigits hcount, ← he]
  calc |(roundQuotient (scaled count n d).1 (scaled count n d).2 : ℚ) * 10 ^ e - n / d|
    _ = |(roundQuotient (scaled count n d).1 (scaled count n d).2 : ℚ) -
          (scaled count n d).1 / (scaled count n d).2| * 10 ^ e := by
      conv_lhs => rw [hscale]
      rw [← sub_mul, abs_mul, abs_of_pos hpower]
    _ ≤ 1 / 2 * (n / d / 10 ^ (count - 1)) := mul_le_mul hround hunit hpower.le (by norm_num)
    _ = n / d / 2 / 10 ^ (count - 1) := by ring

/-- A number of few digits that is known up to a small error is met exactly. -/
theorem value_roundToDigits_eq {u : Nat} {k : Int} (hu : u < 10 ^ count)
    (hnear : |(n / d : ℚ) - u * 10 ^ k| ≤ n / d / 10 ^ (count + 2)) :
    (roundToDigits count n d).value count = u * 10 ^ k := by
  obtain ⟨hlower, hupper⟩ := decimalExponent_bounds hd hn
  obtain ⟨P, hP⟩ : ∃ P, P = decimalExponent n d := ⟨_, rfl⟩
  rw [← hP] at hlower hupper
  -- the error is far below the unit of the last place
  have herror : |(n / d : ℚ) - u * 10 ^ k| < 10 ^ (P - count - 1) := by
    calc |(n / d : ℚ) - u * 10 ^ k| ≤ n / d / 10 ^ (count + 2) := hnear
      _ < 10 ^ (P + 1) / 10 ^ (count + 2) := div_lt_div_of_pos_right hupper (by positivity)
      _ = 10 ^ (P - count - 1) := by
        rw [← zpow_natCast, ← zpow_sub₀ (by norm_num)]
        congr 1
        push_cast
        omega
  -- or else the number would be too small to have the place it has
  have hplace : P - (count - 1) ≤ k := by
    by_contra hless
    have hsmall : (u : ℚ) * 10 ^ k ≤ 10 ^ P - 10 ^ (P - count) := by
      have hdigits : (u : ℚ) ≤ 10 ^ count - 1 := by
        have hcast : ((u + 1 : Nat) : ℚ) ≤ ((10 ^ count : Nat) : ℚ) := by exact_mod_cast hu
        push_cast at hcast
        linarith
      have hone : (1 : ℚ) ≤ 10 ^ count := one_le_pow₀ (by norm_num)
      calc (u : ℚ) * 10 ^ k
        _ ≤ (10 ^ count - 1) * 10 ^ (P - count) :=
          mul_le_mul hdigits (zpow_le_zpow_right₀ (by norm_num) (by omega)) (by positivity)
            (by linarith)
        _ = 10 ^ P - 10 ^ (P - count) := by
          rw [sub_mul, one_mul, ← zpow_natCast, ← zpow_add₀ (by norm_num)]
          congr 2
          omega
    have hmono : (10 : ℚ) ^ (P - count - 1) ≤ 10 ^ (P - count) :=
      zpow_le_zpow_right₀ (by norm_num) (by omega)
    linarith [(abs_lt.1 herror).2]
  obtain ⟨i, hi⟩ := Int.eq_ofNat_of_zero_le (show 0 ≤ k - (P - (count - 1)) by omega)
  have hvalue : (u : ℚ) * 10 ^ k = ((u * 10 ^ i : Nat) : ℚ) * 10 ^ (P - (count - 1)) := by
    push_cast
    rw [← zpow_natCast, mul_assoc, ← zpow_add₀ (by norm_num)]
    congr 2
    omega
  have hround : roundQuotient (scaled count n d).1 (scaled count n d).2 = u * 10 ^ i := by
    refine roundQuotient_eq (scaleTen_pos hd _) ?_
    have hpower : (0 : ℚ) < 10 ^ (count - 1 - P : Int) := by positivity
    have hwhole : ((u * 10 ^ i : Nat) : ℚ) = u * 10 ^ k * 10 ^ (count - 1 - P : Int) := by
      rw [hvalue, mul_assoc, ← zpow_add₀ (by norm_num),
        show P - (count - 1) + (count - 1 - P : Int) = 0 by omega, zpow_zero, mul_one]
    rw [scaled, scaleTen_eq hd, ← hP, hwhole, ← sub_mul, abs_mul, abs_of_pos hpower]
    calc |(n / d : ℚ) - u * 10 ^ k| * 10 ^ (count - 1 - P : Int)
      _ < 10 ^ (P - count - 1) * 10 ^ (count - 1 - P : Int) :=
        mul_lt_mul_of_pos_right herror hpower
      _ = 10 ^ (-2 : Int) := by
        rw [← zpow_add₀ (by norm_num)]
        congr 1
        omega
      _ < 1 / 2 := by norm_num
  rw [value_roundToDigits hcount, hround, ← hP, hvalue]

end

end CestExport.Number
