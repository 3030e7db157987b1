import CestExport.Proofs.Number.Numeral
import CestExport.Proofs.Number.Rounding

/-!
# Written numbers as binary64

A text is read as a finite number exactly if it writes one below the bound of
infinity; the number read is the one nearest to it.  Dividing it by a whole number
does not change whether it is finite.

    readDecimal? s = some x  →
      x.IsFinite ↔ ∃ q, Denotes s q ∧ |q| < overflowBound          (isFinite_iff_denotes)
-/

namespace CestExport.Number

/-- Neither infinite nor what is no number. -/
def Binary64.IsFinite (x : Binary64) : Prop :=
  ∃ negative m e, x = .finite negative m e

/-- A written number is rounded without its sign. -/
theorem exists_rounded_of_denotes {v : String} {q : ℚ} (h : Denotes v q) :
    ∃ negative x, readDecimal? v = some x ∧ Rounded negative |q| x ∧
      q = (if negative then -1 else 1) * |q| := by
  obtain ⟨negative, m, e, hnumeral, rfl⟩ := h
  have hpos : (0 : ℚ) ≤ m * 10 ^ e := by positivity
  have habs : |(if negative then -1 else 1) * ((m : ℚ) * 10 ^ e)| = m * 10 ^ e := by
    rw [abs_mul, abs_of_nonneg hpos]
    cases negative <;> simp
  refine ⟨negative, _, readDecimal?_of_numeral hnumeral, ?_, by rw [habs]⟩
  rw [habs]
  exact Binary64.rounded_ofDecimal negative m e

section

variable {s : String} {negative : Bool} {m : Nat} {e : Int}

/-- A number that is read is one that the text writes, rounded. -/
theorem exists_denotes (h : readDecimal? s = some (.finite negative m e)) :
    ∃ q, Denotes s q ∧ |q| < overflowBound ∧ m < 2 ^ 53 ∧ e ≤ 971 := by
  obtain ⟨sign, k, f, hnumeral⟩ := numeral_of_readDecimal? h rfl
  have hdenotes : Denotes s _ := ⟨sign, k, f, hnumeral, rfl⟩
  obtain ⟨_, y, hy, hrounded, -⟩ := exists_rounded_of_denotes hdenotes
  cases h.symm.trans hy
  cases hrounded with
  | finite hlt hm he => exact ⟨_, hdenotes, hlt, hm, he⟩

end

section

variable {s : String} {x : Binary64} (h : readDecimal? s = some x)
include h

/-- Nothing is read as a finite number but a text that writes one below the bound. -/
theorem isFinite_iff_denotes : x.IsFinite ↔ ∃ q, Denotes s q ∧ |q| < overflowBound := by
  constructor
  · rintro ⟨negative, m, e, rfl⟩
    obtain ⟨q, hdenotes, hlt, -⟩ := exists_denotes h
    exact ⟨q, hdenotes, hlt⟩
  · rintro ⟨q, hdenotes, hlt⟩
    obtain ⟨negative, y, hy, hrounded, -⟩ := exists_rounded_of_denotes hdenotes
    cases h.symm.trans hy
    cases hrounded with
    | finite => exact ⟨_, _, _, rfl⟩
    | infinite hge => exact absurd hge (not_le.2 hlt)

/-- A quotient is finite if and only if the number divided is. -/
theorem isFinite_divNat_iff {k : Nat} (hk : 0 < k) : (x.divNat k).IsFinite ↔ x.IsFinite := by
  cases x with
  | finite negative m e =>
    refine iff_of_true ?_ ⟨_, _, _, rfl⟩
    obtain ⟨q, -, -, hm, he⟩ := exists_denotes h
    have hd : 0 < (Binary64.ratio m e).2 * k := Nat.mul_pos (Binary64.ratio_pos m e) hk
    have hrounded := Binary64.rounded_ofRatio negative (Binary64.ratio m e).1 hd
    have hless : ((Binary64.ratio m e).1 / ((Binary64.ratio m e).2 * k : Nat) : ℚ) <
        overflowBound := by
      have hone : (1 : ℚ) ≤ k := by exact_mod_cast hk
      rw [Nat.cast_mul, ← div_div, Binary64.ratio_eq]
      calc (m : ℚ) * 2 ^ e / k ≤ m * 2 ^ e := div_le_self (by positivity) hone
        _ < overflowBound := mantissa_lt_overflowBound hm he
    have hdivide : Binary64.divNat (.finite negative m e) k =
        Binary64.ofRatio negative (Binary64.ratio m e).1 ((Binary64.ratio m e).2 * k) := rfl
    rw [hdivide]
    generalize Binary64.ofRatio negative (Binary64.ratio m e).1 ((Binary64.ratio m e).2 * k) = y
      at hrounded ⊢
    cases hrounded with
    | finite => exact ⟨_, _, _, rfl⟩
    | infinite hge => exact absurd hge (not_le.2 hless)
  | infinite negative => rfl
  | nan => rfl

end

end CestExport.Number
