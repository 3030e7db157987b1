import CestExport.Distinct
import Mathlib.Data.List.Basic
import Mathlib.Data.List.Induction

/-!
# Names at their first appearance

The distinct names of a list are its names, each once, and a name stands before
another one if it appears before it for the first time.

    FirstAppearances names (distinct names)                (firstAppearances_distinct)
-/

namespace CestExport

/-- Names of a list without repetition, in the order in which they first appear there. -/
structure FirstAppearances (names firsts : List String) : Prop where
  nodup : firsts.Nodup
  mem_iff : ∀ n, n ∈ firsts ↔ n ∈ names
  ordered : firsts.Pairwise fun a b => names.idxOf a < names.idxOf b

theorem idxOf_addNew {names : List String} {m : String} (h : m ∈ names) (n : String) :
    (addNew names n).idxOf m = names.idxOf m := by
  unfold CestExport.addNew
  split
  next => rfl
  next => exact List.idxOf_append_of_mem h

/-- A name that is there keeps its place when others are added. -/
theorem idxOf_addAllNew {names : List String} {m : String} (h : m ∈ names) (more : List String) :
    (addAllNew names more).idxOf m = names.idxOf m := by
  induction more generalizing names with
  | nil => rfl
  | cons n ns ih => exact (ih (mem_addNew.2 (.inl h))).trans (idxOf_addNew h n)

/-- One more name appears behind all others, unless it has appeared before. -/
theorem FirstAppearances.addNew {names firsts : List String} (h : FirstAppearances names firsts)
    (n : String) : FirstAppearances (names ++ [n]) (addNew firsts n) where
  nodup := nodup_addNew h.nodup n
  mem_iff m := by rw [mem_addNew, h.mem_iff, List.mem_append, List.mem_singleton]
  ordered := by
    have hkeep : ∀ m ∈ firsts, (names ++ [n]).idxOf m = names.idxOf m :=
      fun m hm => List.idxOf_append_of_mem ((h.mem_iff m).1 hm)
    have hfirsts : firsts.Pairwise fun a b => (names ++ [n]).idxOf a < (names ++ [n]).idxOf b := by
      refine h.ordered.imp_of_mem fun ha hb hlt => ?_
      rwa [hkeep _ ha, hkeep _ hb]
    unfold CestExport.addNew
    split
    next => exact hfirsts
    next hn =>
      refine List.pairwise_append.2 ⟨hfirsts, List.pairwise_singleton _ _, ?_⟩
      intro a ha b hb
      obtain rfl := List.mem_singleton.1 hb
      have hlast : (names ++ [b]).idxOf b = names.length := by
        rw [List.idxOf_append_of_notMem fun hb => hn ((h.mem_iff b).2 hb)]
        simp
      rw [hkeep a ha, hlast]
      exact List.idxOf_lt_length_of_mem ((h.mem_iff a).1 ha)

theorem firstAppearances_distinct (names : List String) :
    FirstAppearances names (distinct names) := by
  induction names using List.reverseRecOn with
  | nil => exact ⟨List.nodup_nil, by simp [distinct, addAllNew], List.Pairwise.nil⟩
  | append_singleton names n ih =>
    have hlast : distinct (names ++ [n]) = addNew (distinct names) n := by
      rw [distinct, addAllNew_append]
      rfl
    rw [hlast]
    exact ih.addNew n

end CestExport
