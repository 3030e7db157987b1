/-!
# Written lists that are read in one way only

If what an item writes can be told from what follows it, then so can items that
are written one after the other with a separator in between, as long as what
follows the last one does not look like another separator.

    sep.intercalate [a, b, c] = a ++ sep ++ b ++ sep ++ c             (intercalate_eq)
    a separated list is written by one list of items only               (Readable.eq_of_separated)
-/

namespace CestExport

variable {α : Type}

/-! ## Algorithm -/

/-- Items that are read back from what they write, given that what follows satisfies `Stop`. -/
def Readable (write : α → List Char) (Valid : α → Prop) (Stop : List Char → Prop) : Prop :=
  ∀ {x y rest rest'}, Valid x → Valid y → Stop rest → Stop rest' →
    write x ++ rest = write y ++ rest' → x = y ∧ rest = rest'

/-- Items written one after the other with a separator in between. -/
def separated (sep : List Char) (write : α → List Char) (items : List α) : List Char :=
  sep.intercalate (items.map write)

/-- Items written with a separator in front of each. -/
def continued (sep : List Char) (write : α → List Char) (items : List α) : List Char :=
  items.flatMap fun x => sep ++ write x

/-! ## Lemmas -/

section

variable {write : α → List Char} {Valid : α → Prop} {Stop : List Char → Prop} {sep : List Char}

theorem separated_cons (x : α) (xs : List α) :
    separated sep write (x :: xs) = write x ++ continued sep write xs := by
  induction xs generalizing x with
  | nil => simp [separated, continued]
  | cons y ys ih =>
    have hy := ih y
    simp only [separated, continued, List.map_cons, List.flatMap_cons] at hy ⊢
    rw [List.intercalate_cons_cons, hy]
    simp

theorem continued_cons (x : α) (xs : List α) :
    continued sep write (x :: xs) = sep ++ (write x ++ continued sep write xs) := by
  simp [continued]

theorem stop_continued (hsep : ∀ cs, Stop (sep ++ cs)) {rest : List Char} (h : Stop rest)
    (xs : List α) : Stop (continued sep write xs ++ rest) := by
  cases xs with
  | nil => exact h
  | cons x xs =>
    rw [continued_cons, List.append_assoc]
    exact hsep _

/-- Items behind separators are read back one by one. -/
theorem Readable.eq_of_continued (hread : Readable write Valid Stop)
    (hsep : ∀ cs, Stop (sep ++ cs)) {xs ys : List α} {rest rest' : List Char}
    (hx : ∀ x ∈ xs, Valid x) (hy : ∀ y ∈ ys, Valid y) (hr : Stop rest) (hr' : Stop rest')
    (hend : ∀ cs, rest ≠ sep ++ cs) (hend' : ∀ cs, rest' ≠ sep ++ cs)
    (h : continued sep write xs ++ rest = continued sep write ys ++ rest') :
    xs = ys ∧ rest = rest' := by
  induction xs generalizing ys with
  | nil =>
    cases ys with
    | nil => exact ⟨rfl, h⟩
    | cons y ys =>
      rw [continued_cons, List.append_assoc] at h
      exact absurd h (hend _)
  | cons x xs ih =>
    cases ys with
    | nil =>
      rw [continued_cons, List.append_assoc] at h
      exact absurd h.symm (hend' _)
    | cons y ys =>
      simp only [continued_cons, List.append_assoc, List.append_cancel_left_eq] at h
      obtain ⟨hxv, hxs⟩ := List.forall_mem_cons.1 hx
      obtain ⟨hyv, hys⟩ := List.forall_mem_cons.1 hy
      obtain ⟨rfl, htail⟩ :=
        hread hxv hyv (stop_continued hsep hr xs) (stop_continued hsep hr' ys) h
      obtain ⟨rfl, hend⟩ := ih hxs hys htail
      exact ⟨rfl, hend⟩

/-- Items between separators are read back one by one. -/
theorem Readable.eq_of_separated (hread : Readable write Valid Stop)
    (hsep : ∀ cs, Stop (sep ++ cs)) {xs ys : List α} {rest rest' : List Char}
    (hxs : xs ≠ []) (hys : ys ≠ []) (hx : ∀ x ∈ xs, Valid x) (hy : ∀ y ∈ ys, Valid y)
    (hr : Stop rest) (hr' : Stop rest') (hend : ∀ cs, rest ≠ sep ++ cs)
    (hend' : ∀ cs, rest' ≠ sep ++ cs)
    (h : separated sep write xs ++ rest = separated sep write ys ++ rest') :
    xs = ys ∧ rest = rest' := by
  obtain ⟨x, xs, rfl⟩ := List.exists_cons_of_ne_nil hxs
  obtain ⟨y, ys, rfl⟩ := List.exists_cons_of_ne_nil hys
  obtain ⟨hxv, hxvs⟩ := List.forall_mem_cons.1 hx
  obtain ⟨hyv, hyvs⟩ := List.forall_mem_cons.1 hy
  rw [separated_cons, separated_cons, List.append_assoc, List.append_assoc] at h
  obtain ⟨rfl, htail⟩ := hread hxv hyv (stop_continued hsep hr xs) (stop_continued hsep hr' ys) h
  obtain ⟨rfl, hrest⟩ := hread.eq_of_continued hsep hxvs hyvs hr hr' hend hend' htail
  exact ⟨rfl, hrest⟩

end

end CestExport
