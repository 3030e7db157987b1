import CestExport.Number.Significant
import CestExport.Number.Whole
import CestExport.Timeout
import CestExport.Proofs.Success

/-!
# The characters of shown numbers

A number is shown by letters, digits, points and signs, whatever its value; so
are the waiting times that generated code holds.

    c ∈ (decimal n).toList     →  isFigure c                    (isFigure_of_mem_decimal)
    d.seconds fallback = .ok s →  every c of s isFigure      (isFigure_of_mem_seconds)
-/

namespace CestExport.Number

/-- A letter, a digit, a point or a sign. -/
def isFigure (c : Char) : Bool :=
  c.isAlphanum || c == '.' || c == '+' || c == '-'

/-! ## Whole numbers -/

theorem isFigure_of_isDigit {c : Char} (h : c.isDigit = true) : isFigure c = true := by
  simp [isFigure, Char.isAlphanum, h]

theorem isFigure_of_mem_toDigits {n : Nat} {c : Char} (h : c ∈ Nat.toDigits 10 n) :
    isFigure c = true :=
  isFigure_of_isDigit (Nat.isDigit_of_mem_toDigits (by decide) (by decide) h)

theorem isFigure_of_mem_decimal {n : Int} {c : Char} (h : c ∈ (decimal n).toList) :
    isFigure c = true := by
  cases n with
  | ofNat m =>
    have hm : (decimal (.ofNat m)).toList = Nat.toDigits 10 m := Nat.toList_repr
    exact isFigure_of_mem_toDigits (hm ▸ h)
  | negSucc m =>
    have hm : (decimal (.negSucc m)).toList = '-' :: Nat.toDigits 10 (m + 1) := by
      have : decimal (.negSucc m) = "-" ++ (m + 1).repr := rfl
      rw [this, String.toList_append, Nat.toList_repr]
      rfl
    rw [hm] at h
    rcases List.mem_cons.1 h with rfl | h
    · rfl
    · exact isFigure_of_mem_toDigits h

theorem isFigure_of_mem_showWhole {n : Int} {s : String} (hs : showWhole n = .ok s) {c : Char}
    (h : c ∈ s.toList) : isFigure c = true := by
  unfold showWhole at hs
  split at hs
  next =>
    cases hs
    exact isFigure_of_mem_decimal h
  next => cases hs

/-! ## Numbers with a fraction -/

theorem isFigure_of_mem_exponentText {e : Int} {c : Char} (h : c ∈ exponentText e) :
    isFigure c = true := by
  have hd : ∀ d ∈ Nat.toDigits 10 e.natAbs, isFigure d = true :=
    fun d hd => isFigure_of_mem_toDigits hd
  simp only [exponentText, List.mem_cons] at h
  rcases h with rfl | rfl | h
  · rfl
  · split <;> rfl
  · split at h
    next =>
      rcases List.mem_cons.1 h with rfl | h
      · rfl
      · exact hd c h
    next => exact hd c h

theorem mem_of_mem_dropZeros {digits : List Char} {c : Char} (h : c ∈ dropZeros digits) :
    c ∈ digits := by
  have := (List.dropWhile_suffix (· == '0')).subset (List.mem_reverse.1 h)
  exact List.mem_reverse.1 this

theorem isFigure_of_mem_write {layout : DecimalLayout} {x : Leading} :
    ∀ c ∈ layout.write x, isFigure c = true := by
  have hd : ∀ d ∈ dropZeros (Nat.toDigits 10 x.digits), isFigure d = true :=
    fun d hd => isFigure_of_mem_toDigits (mem_of_mem_dropZeros hd)
  have hz : ∀ n, ∀ d ∈ List.replicate n '0', isFigure d = true := by
    intro n d hd
    rw [(List.mem_replicate.1 hd).2]
    rfl
  have he : ∀ e, ∀ c ∈ exponentText e, isFigure c = true := fun _ _ => isFigure_of_mem_exponentText
  have hpoint : isFigure '.' = true := rfl
  have hzero : isFigure '0' = true := rfl
  simp only [DecimalLayout.write]
  generalize dropZeros (Nat.toDigits 10 x.digits) = ds at hd
  split
  next =>
    split
    next => simp [hzero]
    next d =>
      rw [List.forall_mem_cons] at hd ⊢
      exact ⟨hd.1, he x.place⟩
    next d r _ =>
      rw [List.forall_mem_cons] at hd
      simp only [List.cons_append, List.forall_mem_cons, List.forall_mem_append]
      exact ⟨hd.1, hpoint, hd.2, he x.place⟩
  next =>
    split
    next =>
      simp only [List.cons_append, List.forall_mem_cons, List.forall_mem_append]
      exact ⟨hzero, hpoint, hz _, hd⟩
    next =>
      have hfront : ∀ c ∈ ds.take (x.place.toNat + 1), isFigure c = true :=
        fun c hc => hd c (List.mem_of_mem_take hc)
      have hback : ∀ c ∈ ds.drop (x.place.toNat + 1), isFigure c = true :=
        fun c hc => hd c (List.mem_of_mem_drop hc)
      split
      next =>
        split
        next =>
          simp only [List.forall_mem_append, List.forall_mem_cons]
          exact ⟨⟨hfront, hz _⟩, hpoint, hzero, by simp⟩
        next => exact List.forall_mem_append.2 ⟨hfront, hz _⟩
      next =>
        simp only [List.forall_mem_append, List.forall_mem_cons]
        exact ⟨⟨hfront, hz _⟩, hpoint, hback⟩

theorem isFigure_of_mem_signed (negative : Bool) (cs : List Char)
    (h : ∀ c ∈ cs, isFigure c = true) :
    ∀ c ∈ (Binary64.signed negative cs).toList, isFigure c = true := by
  rw [Binary64.signed, String.toList_ofList]
  split
  next => exact List.forall_mem_cons.2 ⟨rfl, h⟩
  next => exact h

theorem isFigure_of_mem_general {x : Binary64} : ∀ c ∈ x.general.toList, isFigure c = true := by
  cases x with
  | finite negative m e =>
    simp only [Binary64.general]
    split
    next => exact isFigure_of_mem_signed negative ['0'] (List.all_eq_true.1 rfl)
    next => exact isFigure_of_mem_signed negative _ isFigure_of_mem_write
  | infinite negative =>
    exact isFigure_of_mem_signed negative "inf".toList (List.all_eq_true.1 rfl)
  | nan => exact List.all_eq_true.1 rfl

end CestExport.Number

namespace CestExport.Duration

open Number

/-! ## Waiting times -/

theorem isFigure_of_mem_literal {x : Binary64} : ∀ c ∈ (literal x).toList, isFigure c = true := by
  unfold literal
  split
  next =>
    split
    next => exact fun _ => isFigure_of_mem_decimal
    next => exact isFigure_of_mem_general
  next => exact isFigure_of_mem_general

/-- A time is that of the fallback, or a recorded one. -/
theorem secondsOr_eq_ok {d : Duration} {fallback : Except Failure Binary64} {s : String} :
    d.secondsOr fallback = .ok s ↔ ∃ t, d.written = .ok t ∧
      (t = "" ∧ (∃ x, fallback = .ok x ∧ literal x = s) ∨
        t ≠ "" ∧ ∃ x, readDecimal? t = some x ∧ literal (x.divNat 1000) = s) := by
  rw [secondsOr, bind_eq_ok]
  refine exists_congr fun t => and_congr_right fun _ => ?_
  by_cases ht : t = ""
  · simp [ht, map_eq_ok]
  · rw [if_neg ht]
    cases readDecimal? t with
    | none => simp [ht]
    | some x => simp [ht]

theorem isFigure_of_mem_seconds {d : Duration} {fallback : Int} {s : String}
    (h : d.seconds fallback = .ok s) : ∀ c ∈ s.toList, isFigure c = true := by
  obtain ⟨t, -, ⟨-, x, -, rfl⟩ | ⟨-, x, -, rfl⟩⟩ := secondsOr_eq_ok.1 h
  · exact isFigure_of_mem_literal
  · exact isFigure_of_mem_literal

end CestExport.Duration
