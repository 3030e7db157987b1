import CestExport.Proofs.Template

/-!
# Where a text is cut

Read from the left, a text is cut in front of and behind the leftmost reference of
those that are left; what stands between two references is a piece of its own if it
is not empty.  This says what the pieces of a text are without a scan.  A reference
in the middle of a text is one of its pieces if the text in front of it has not
begun another one.

    Cut cs ps  ↔  ps = scan cs                                               (cut_iff)
    u leaves no reference open  →
      scan (u ++ ${name} ++ v) = scan u ++ reference name :: scan v   (scan_append_reference)
-/

namespace CestExport.Template

/-! ## Algorithm -/

/-- Pieces behind a plain text, which counts only if it is not empty. -/
def lead (u : List Char) (ps : List Piece) : List Piece :=
  if u = [] then ps else .text u :: ps

/-- A text and its pieces: the plain text up to the leftmost reference, that reference, and the
pieces of what follows. -/
inductive Cut : List Char → List Piece → Prop
  | plain {u : List Char} : (∀ x y, u = x ++ y → ¬BeginsReference y) → Cut u (lead u [])
  | reference {u name rest : List Char} {ps : List Piece} : IsName name →
    (∀ x y, u = x ++ y → y ≠ [] → ¬BeginsReference (y ++ (writeReference name ++ rest))) →
    Cut rest ps →
    Cut (u ++ (writeReference name ++ rest)) (lead u (.reference (String.ofList name) :: ps))

/-- A text with the beginning of a reference whose brace is not closed in it. -/
def LeavesOpen (u : List Char) : Prop :=
  ∃ x y, u = x ++ '$' :: '{' :: y ∧ '}' ∉ y

/-! ## Leading texts -/

theorem push_lead {ps : List Piece} (h : ∀ ds qs, ps ≠ .text ds :: qs) (c : Char)
    (u : List Char) : push c (lead u ps) = lead (c :: u) ps := by
  cases u with
  | nil =>
    cases ps with
    | nil => rfl
    | cons p ps =>
      cases p with
      | text ds => exact absurd rfl (h ds ps)
      | reference name => rfl
  | cons d u => rfl

theorem push_append_reference (c : Char) (ps : List Piece) (name : String) (qs : List Piece) :
    push c (ps ++ .reference name :: qs) = push c ps ++ .reference name :: qs := by
  cases ps with
  | nil => rfl
  | cons p ps => cases p <;> rfl

/-- Characters at which no reference begins lead the pieces behind them. -/
theorem scan_append {u v : List Char}
    (h : ∀ x y, u = x ++ y → y ≠ [] → ¬BeginsReference (y ++ v))
    (hv : ∀ ds qs, scan v ≠ .text ds :: qs) : scan (u ++ v) = lead u (scan v) := by
  induction u with
  | nil => rfl
  | cons c cs ih =>
    have hc : ¬BeginsReference (c :: (cs ++ v)) := h [] (c :: cs) rfl (by simp)
    rw [List.cons_append, scan_of_none (reference?_eq_none.2 hc), ih, push_lead hv]
    intro x y hxy
    exact h (c :: x) y (by rw [hxy, List.cons_append])

/-! ## Cutting -/

theorem Cut.cons {c : Char} {cs : List Char} {ps : List Piece} (hc : ¬BeginsReference (c :: cs))
    (h : Cut cs ps) : Cut (c :: cs) (push c ps) := by
  cases h with
  | plain hplain =>
    rw [push_lead (by simp)]
    refine .plain ?_
    intro x y hxy
    cases x with
    | nil =>
      rw [List.nil_append] at hxy
      exact hxy ▸ hc
    | cons d x =>
      rw [List.cons_append, List.cons.injEq] at hxy
      exact hplain x y hxy.2
  | @reference u name rest ps hname hfirst hrest =>
    rw [push_lead (by simp)]
    refine Cut.reference (u := c :: u) hname ?_ hrest
    intro x y hxy hy
    cases x with
    | nil =>
      rw [List.nil_append] at hxy
      subst hxy
      exact hc
    | cons d x =>
      rw [List.cons_append, List.cons.injEq] at hxy
      exact hfirst x y hxy.2 hy

theorem cut_scan (cs : List Char) : Cut cs (scan cs) := by
  fun_induction scan cs with
  | case1 =>
    refine Cut.plain (u := []) ?_
    rintro x y hxy ⟨name, rest, _, hy⟩
    simp [hy, writeReference] at hxy
  | case2 c rest name after h ih =>
    obtain ⟨hcs, hname⟩ := reference?_iff.1 h
    rw [hcs]
    refine Cut.reference (u := []) hname ?_ ih
    intro x y hxy hy
    exact absurd (List.append_eq_nil_iff.1 hxy.symm).2 hy
  | case3 c rest h ih => exact ih.cons (reference?_eq_none.1 h)

/-- A text is cut in one way only, which is how it is scanned. -/
theorem cut_iff {cs : List Char} {ps : List Piece} : Cut cs ps ↔ ps = scan cs := by
  constructor
  · intro h
    induction h with
    | @plain u hplain =>
      have hempty : scan [] = [] := by simp [scan]
      have hscan : scan (u ++ []) = lead u (scan []) := by
        refine scan_append (fun x y hxy _ => ?_) (by simp [hempty])
        rw [List.append_nil]
        exact hplain x y hxy
      rw [List.append_nil, hempty] at hscan
      exact hscan.symm
    | @reference u name rest ps hname hfirst _ ih =>
      have hscan := scan_of_reference (reference?_iff.2 ⟨rfl, hname⟩ :
        reference? (writeReference name ++ rest) = some (name, rest))
      rw [scan_append hfirst (by simp [hscan]), hscan, ih]
  · rintro rfl
    exact cut_scan cs

/-! ## References in the middle of a text -/

theorem LeavesOpen.append {v : List Char} (h : LeavesOpen v) (u : List Char) :
    LeavesOpen (u ++ v) := by
  obtain ⟨x, y, rfl, hy⟩ := h
  exact ⟨u ++ x, y, by simp, hy⟩

/-- Where no reference begins, none begins when another one follows, unless it was left open. -/
theorem not_beginsReference_append {u name v : List Char} (hne : u ≠ [])
    (hopen : ¬LeavesOpen u) (h : ¬BeginsReference u) :
    ¬BeginsReference (u ++ (writeReference name ++ v)) := by
  rintro ⟨name', rest, hname', heq⟩
  match u with
  | [] => exact hne rfl
  | [c] => simp [writeReference] at heq
  | c :: d :: y =>
    simp only [writeReference, List.cons_append, List.append_assoc, List.nil_append,
      List.cons.injEq] at heq
    obtain ⟨rfl, rfl, heq⟩ := heq
    have hclosed : '}' ∈ y :=
      Classical.byContradiction fun hy => hopen ⟨[], y, rfl, hy⟩
    -- the name ends at the first brace, which is one of the text in front
    rcases List.append_eq_append_iff.1 heq with ⟨z, hz, _⟩ | ⟨z, hz, hbrace⟩
    · exact hname'.2 (hz ▸ List.mem_append_left z hclosed)
    · cases z with
      | nil =>
        rw [List.append_nil] at hz
        exact hname'.2 (hz ▸ hclosed)
      | cons e z =>
        obtain ⟨rfl, _⟩ := List.cons.inj hbrace
        exact h ⟨name', z, hname', by simp [writeReference, hz]⟩

/-- A reference behind a text that leaves none open is a piece of its own. -/
theorem scan_append_reference {u name : List Char} (hopen : ¬LeavesOpen u) (hname : IsName name)
    (v : List Char) : scan (u ++ (writeReference name ++ v)) =
      scan u ++ .reference (String.ofList name) :: scan v := by
  fun_induction scan u with
  | case1 => exact scan_of_reference (reference?_iff.2 ⟨rfl, hname⟩)
  | case2 c rest before after h ih =>
    obtain ⟨hcs, hbefore⟩ := reference?_iff.1 h
    rw [hcs] at hopen ⊢
    rw [List.append_assoc, scan_of_reference (reference?_iff.2 ⟨rfl, hbefore⟩),
      ih fun hafter => hopen (hafter.append _)]
    rfl
  | case3 c rest h ih =>
    have hnone : ¬BeginsReference (c :: (rest ++ (writeReference name ++ v))) :=
      not_beginsReference_append (by simp) hopen (reference?_eq_none.1 h)
    rw [List.cons_append, scan_of_none (reference?_eq_none.2 hnone),
      ih fun hrest => hopen (hrest.append [c]), push_append_reference]

end CestExport.Template
