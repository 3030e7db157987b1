import CestExport.Distinct

/-!
# Values under names

An index holds values under names, in the order in which the names first came up.
A value that is put under a name that is there already takes the place of the one
before it.

    (put name a entries).lookup m = if m = name then some a else entries.lookup m     (lookup_put)
    names (put name a entries) = addNew (names entries) name                           (names_put)
-/

namespace CestExport.Index

variable {α : Type}

/-- The names of an index, in order. -/
def names (entries : List (String × α)) : List String :=
  entries.map (·.1)

/-- An index with a value under a name. -/
def put (name : String) (a : α) : List (String × α) → List (String × α)
  | [] => [(name, a)]
  | e :: es => if e.1 = name then (name, a) :: es else e :: put name a es

/-! ## Lemmas -/

theorem lookup_cons (m : String) (e : String × α) (es : List (String × α)) :
    (e :: es).lookup m = if m = e.1 then some e.2 else es.lookup m := by
  rw [List.lookup_cons]
  by_cases hm : m = e.1
  · simp [hm]
  · simp [hm, beq_false_of_ne hm]

theorem names_cons (e : String × α) (es : List (String × α)) :
    names (e :: es) = e.1 :: names es := rfl

theorem isSome_lookup {entries : List (String × α)} {name : String} :
    (entries.lookup name).isSome = true ↔ name ∈ names entries := by
  induction entries with
  | nil => simp [names]
  | cons e es ih =>
    rw [lookup_cons, names_cons, List.mem_cons]
    by_cases he : name = e.1
    · simp [he]
    · simp [he, ih]

theorem lookup_put (name m : String) (a : α) (entries : List (String × α)) :
    (put name a entries).lookup m = if m = name then some a else entries.lookup m := by
  induction entries with
  | nil => simp [put, lookup_cons]
  | cons e es ih =>
    rw [put]
    split
    next he =>
      rw [lookup_cons, lookup_cons, he]
      by_cases hm : m = name
      · rw [if_pos hm, if_pos hm]
      · rw [if_neg hm, if_neg hm, if_neg hm]
    next he =>
      rw [lookup_cons, ih, lookup_cons]
      by_cases hm : m = e.1
      · simp [hm, he]
      · simp [hm]

theorem names_put (name : String) (a : α) (entries : List (String × α)) :
    names (put name a entries) = addNew (names entries) name := by
  induction entries with
  | nil => rfl
  | cons e es ih =>
    rw [put]
    split
    next he => simp [names_cons, addNew, he]
    next he =>
      rw [names_cons, ih, names_cons, addNew, addNew]
      by_cases hes : name ∈ names es
      · simp [hes]
      · simp [hes, Ne.symm he]

/-- With different names, an index holds what is found under each of them. -/
theorem values_eq_map {entries : List (String × α)} (hnodup : (names entries).Nodup)
    {f : String → α} (hf : ∀ m ∈ names entries, entries.lookup m = some (f m)) :
    entries.map (·.2) = (names entries).map f := by
  induction entries with
  | nil => rfl
  | cons e es ih =>
    rw [names_cons, List.nodup_cons] at hnodup
    have hfirst : e.2 = f e.1 := by
      have h := hf e.1 List.mem_cons_self
      rwa [lookup_cons, if_pos rfl, Option.some.injEq] at h
    have hrest : ∀ m ∈ names es, es.lookup m = some (f m) := by
      intro m hm
      have hne : m ≠ e.1 := by
        rintro rfl
        exact hnodup.1 hm
      have h := hf m (List.mem_cons_of_mem _ hm)
      rwa [lookup_cons, if_neg hne] at h
    rw [List.map_cons, names_cons, List.map_cons, hfirst, ih hnodup.2 hrest]

end CestExport.Index
