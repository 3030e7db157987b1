/-!
# Lists of names without repetition

Names are kept in the order in which they first appear.

    (addNew names n).Nodup  if  names.Nodup                  (nodup_addNew)
    m ∈ addNew names n  ↔  m ∈ names ∨ m = n                 (mem_addNew)
    addAllNew names (distinct more) = addAllNew names more   (addAllNew_distinct)
-/

namespace CestExport

/-- The names with `n` at the end, unless they have it already. -/
def addNew (names : List String) (n : String) : List String :=
  if n ∈ names then names else names ++ [n]

/-- The names with all of `more`, each at its first appearance. -/
def addAllNew (names more : List String) : List String :=
  more.foldl addNew names

/-- The distinct names of a list in order of first appearance. -/
def distinct (names : List String) : List String :=
  addAllNew [] names

/-! ## Lemmas -/

theorem mem_addNew {names : List String} {n m : String} :
    m ∈ addNew names n ↔ m ∈ names ∨ m = n := by
  unfold addNew
  split
  next h => exact ⟨Or.inl, fun hm => hm.elim id fun e => e ▸ h⟩
  next => simp

theorem nodup_addNew {names : List String} (h : names.Nodup) (n : String) :
    (addNew names n).Nodup := by
  unfold addNew
  split
  next => exact h
  next hn =>
    refine List.nodup_append.2 ⟨h, by simp, ?_⟩
    intro a ha b hb
    simp only [List.mem_singleton] at hb
    intro hab
    exact hn (hb ▸ hab ▸ ha)

theorem mem_addAllNew {names more : List String} {m : String} :
    m ∈ addAllNew names more ↔ m ∈ names ∨ m ∈ more := by
  induction more generalizing names with
  | nil => simp [addAllNew]
  | cons n ns ih =>
    have := @ih (addNew names n)
    simp only [addAllNew, List.foldl_cons] at this ⊢
    rw [this, mem_addNew, List.mem_cons, or_assoc]

theorem nodup_addAllNew {names : List String} (h : names.Nodup) (more : List String) :
    (addAllNew names more).Nodup := by
  induction more generalizing names with
  | nil => exact h
  | cons n ns ih => exact ih (nodup_addNew h n)

theorem addAllNew_append (names more rest : List String) :
    addAllNew names (more ++ rest) = addAllNew (addAllNew names more) rest :=
  List.foldl_append

theorem addNew_of_mem {names : List String} {n : String} (h : n ∈ names) :
    addNew names n = names :=
  if_pos h

/-- Names that were added already need not be added again. -/
theorem addAllNew_addAllNew (names more rest : List String) :
    addAllNew names (addAllNew more rest) = addAllNew (addAllNew names more) rest := by
  induction rest generalizing more with
  | nil => rfl
  | cons n ns ih =>
    show addAllNew names (addAllNew (addNew more n) ns) =
      addAllNew (addNew (addAllNew names more) n) ns
    rw [ih]
    congr 1
    by_cases h : n ∈ more
    · rw [addNew_of_mem h, addNew_of_mem (mem_addAllNew.2 (.inr h))]
    · rw [addNew, if_neg h, addAllNew_append]
      rfl

theorem addAllNew_distinct (names more : List String) :
    addAllNew names (distinct more) = addAllNew names more :=
  addAllNew_addAllNew names [] more

end CestExport
