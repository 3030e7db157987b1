/-!
# Stable sorting

A stable sort by a key keeps items with the same key in the order in which they
stood.  That and the order of the keys leave it no choice.

    (l.filter p).Pairwise le  →  (l.mergeSort le).filter p = l.filter p     (filter_mergeSort)
    SortedBy key l (l.mergeSort (key · ≤ key ·))                            (sortedBy_mergeSort)
-/

namespace CestExport

variable {α : Type}

/-! ## Algorithm -/

/-- The items of a list in the order of their keys, those with the same key in the order in which
they stood. -/
structure SortedBy (key : α → String) (l sorted : List α) : Prop where
  perm : sorted.Perm l
  ordered : sorted.Pairwise fun a b => key a ≤ key b
  stable : ∀ k, sorted.filter (key · = k) = l.filter (key · = k)

/-! ## Lemmas -/

/-- A stable sort leaves items that stand in order among themselves as they are. -/
theorem filter_mergeSort {le : α → α → Bool} {p : α → Bool} {l : List α}
    (htrans : ∀ a b c, le a b = true → le b c = true → le a c = true)
    (htotal : ∀ a b, (le a b || le b a) = true) (h : (l.filter p).Pairwise fun a b => le a b) :
    (l.mergeSort le).filter p = l.filter p := by
  have hsub : (l.filter p).Sublist ((l.mergeSort le).filter p) := by
    have hfiltered := (List.sublist_mergeSort htrans htotal h List.filter_sublist).filter p
    rwa [List.filter_eq_self.2 fun _ ha => (List.mem_filter.1 ha).2] at hfiltered
  have hlength := ((List.mergeSort_perm l le).filter p).length_eq
  exact (hsub.eq_of_length hlength.symm).symm

theorem sortedBy_mergeSort {key : α → String} {le : α → α → Bool}
    (hle : ∀ a b, le a b = true ↔ key a ≤ key b) (l : List α) :
    SortedBy key l (l.mergeSort le) := by
  have htrans : ∀ a b c, le a b = true → le b c = true → le a c = true := by
    intro a b c hab hbc
    exact (hle a c).2 (String.le_trans ((hle a b).1 hab) ((hle b c).1 hbc))
  have htotal : ∀ a b, (le a b || le b a) = true := by
    intro a b
    rw [Bool.or_eq_true, hle, hle]
    exact String.le_total (key a) (key b)
  refine ⟨List.mergeSort_perm l le, ?_, fun k => filter_mergeSort htrans htotal ?_⟩
  · exact (List.pairwise_mergeSort htrans htotal l).imp fun h => (hle _ _).1 h
  · refine List.pairwise_of_forall_mem_list fun a ha b hb => (hle a b).2 ?_
    have hak := of_decide_eq_true (List.mem_filter.1 ha).2
    have hbk := of_decide_eq_true (List.mem_filter.1 hb).2
    have hsame : key a = key b := hak.trans hbk.symm
    exact hsame ▸ String.le_refl (key a)

end CestExport
