import CestExport.Text.Upper

/-!
# What upper case leaves out

    c ∈ (upper s).toList  →  c is no letter from a to z            (isLower_of_mem_upper)
-/

namespace CestExport.Text

theorem isLower_eq_false {c : Char} (h : c.toNat < 0x61 ∨ 0x7A < c.toNat) : c.isLower = false := by
  have hn : ¬(c.isLower = true) := by
    show ¬((decide (c.val ≥ 'a'.val) && decide (c.val ≤ 'z'.val)) = true)
    simp only [Bool.and_eq_true, decide_eq_true_eq, UInt32.le_iff_toNat_le, ge_iff_le]
    have hval : c.toNat = c.val.toNat := rfl
    have ha : 'a'.val.toNat = 0x61 := rfl
    have hz : 'z'.val.toNat = 0x7A := rfl
    omega
  simpa using hn

theorem isLower_toUpper {c : Char} (h : c.toNat < 0x80) : c.toUpper.isLower = false := by
  have hall : ∀ n < 0x80, (Char.ofNat n).toUpper.isLower = false := by decide +kernel
  have hc := hall c.toNat h
  rwa [Char.ofNat_toNat] at hc

theorem isLower_longUppers : ∀ e ∈ longUppers, ∀ n ∈ e.2, (Char.ofNat n).isLower = false := by
  decide +kernel

/-- The images of a run lie on one side of the letters from a to z. -/
theorem upperRuns_bounds : ∀ r ∈ upperRuns, r.first < 0x80 ∧ r.last < 0x80 ∨
    0x7A < r.first + r.shift ∨ r.last + r.shift < 0x61 := by
  decide +kernel

theorem toNat_ofNat_eq (n : Nat) : (Char.ofNat n).toNat = n ∨ (Char.ofNat n).toNat = 0 := by
  by_cases h : n.isValidChar
  · have hn : Char.ofNat n = Char.ofNatAux n h := dif_pos h
    rw [hn]
    exact .inl rfl
  · have hn : Char.ofNat n = Char.ofNat 0 := dif_neg h
    rw [hn]
    exact .inr rfl

theorem isLower_of_mem_upperChar {c d : Char} (h : d ∈ upperChar c) : d.isLower = false := by
  simp only [upperChar] at h
  split at h
  next hascii =>
    obtain rfl := List.mem_singleton.1 h
    exact isLower_toUpper hascii
  next hascii =>
    split at h
    next e he =>
      obtain ⟨n, hn, rfl⟩ := List.mem_map.1 h
      exact isLower_longUppers e (List.mem_of_find?_eq_some he) n hn
    next =>
      split at h
      next r hr =>
        obtain rfl := List.mem_singleton.1 h
        have hbounds := upperRuns_bounds r (List.mem_of_find?_eq_some hr)
        have hrange := List.find?_some hr
        simp only [Bool.and_eq_true, decide_eq_true_eq] at hrange
        refine isLower_eq_false ?_
        rcases toNat_ofNat_eq (c.toNat + r.shift).toNat with hd | hd <;> omega
      next =>
        obtain rfl := List.mem_singleton.1 h
        exact isLower_eq_false (by omega)

theorem isLower_of_mem_upper {s : String} {c : Char} (h : c ∈ (upper s).toList) :
    c.isLower = false := by
  rw [upper, String.toList_ofList, List.mem_flatMap] at h
  obtain ⟨d, _, hc⟩ := h
  exact isLower_of_mem_upperChar hc

end CestExport.Text
