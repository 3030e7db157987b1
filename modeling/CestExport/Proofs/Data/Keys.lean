import CestExport.Data.Basic

/-!
# The text keys of a table

A table is a list of entries; its keys may be values of any kind.  Putting an entry
under a key never makes a second entry with a text key, and where text keys are
different, an entry is found by its key wherever it stands.

    textKeys es without repetition  →  textKeys (put k v es) too       (nodup_textKeys_put)
    … and  find? key es = some v  ↔  (key, v) ∈ es                        (find?_eq_some)
-/

namespace CestExport.Data

/-! ## Algorithm -/

/-- The text that a key is, if it is one. -/
def textKey? : Data → Option String
  | text s => some s
  | _ => none

/-- The keys of a table that are texts. -/
def textKeys {α : Type} (es : List (Data × α)) : List String :=
  es.filterMap fun e => e.1.textKey?

/-! ## Lemmas -/

section

variable {α : Type} {es fs : List (Data × α)} {s : String}

theorem textKey?_eq_some {d : Data} : d.textKey? = some s ↔ d = text s := by
  cases d <;> simp [textKey?]

theorem same_text {d : Data} : same (text s) d = true ↔ d = text s := by
  cases d with
  | text t =>
    simp only [same, sameLeaf, number?, beq_iff_eq, text.injEq]
    exact eq_comm
  | real x => cases x <;> simp [same, sameLeaf, number?]
  | _ => simp [same, sameLeaf, number?]

theorem mem_textKeys : s ∈ textKeys es ↔ ∃ v, (text s, v) ∈ es := by
  simp [textKeys, textKey?_eq_some]

theorem textKeys_cons (e : Data × α) (es : List (Data × α)) :
    textKeys (e :: es) = e.1.textKey?.toList ++ textKeys es := by
  cases h : e.1.textKey? <;> simp [textKeys, h]

theorem nodup_textKeys_of_cons {e : Data × α} (h : (textKeys (e :: es)).Nodup) :
    (textKeys es).Nodup := by
  rw [textKeys_cons] at h
  exact (List.nodup_append.1 h).2.1

theorem textKeys_append (es fs : List (Data × α)) :
    textKeys (es ++ fs) = textKeys es ++ textKeys fs :=
  List.filterMap_append

/-! ## Putting entries -/

theorem mem_put {k : Data} {v : α} {e : Data × α} (h : e ∈ put k v es) :
    e.1 = k ∨ ∃ w, (e.1, w) ∈ es := by
  induction es with
  | nil =>
    rw [put, List.mem_singleton] at h
    exact .inl (by rw [h])
  | cons f es ih =>
    rw [put] at h
    split at h
    next =>
      rcases List.mem_cons.1 h with rfl | h
      · exact .inr ⟨f.2, List.mem_cons_self⟩
      · exact .inr ⟨e.2, List.mem_cons_of_mem f h⟩
    next =>
      rcases List.mem_cons.1 h with rfl | h
      · exact .inr ⟨e.2, List.mem_cons_self⟩
      · rcases ih h with hk | ⟨w, hw⟩
        · exact .inl hk
        · exact .inr ⟨w, List.mem_cons_of_mem f hw⟩

/-- Putting an entry keeps the text keys different. -/
theorem nodup_textKeys_put (h : (textKeys es).Nodup) (k : Data) (v : α) :
    (textKeys (put k v es)).Nodup := by
  induction es with
  | nil => cases hk : k.textKey? <;> simp [put, textKeys, hk]
  | cons e es ih =>
    rw [put]
    split
    next => exact h
    next hother =>
      rw [textKeys_cons] at h ⊢
      cases hkey : e.1.textKey? with
      | none =>
        rw [hkey] at h
        exact ih h
      | some s =>
        rw [hkey] at h
        obtain ⟨hs, hrest⟩ := List.nodup_cons.1 h
        refine List.nodup_cons.2 ⟨fun hput => ?_, ih hrest⟩
        -- the key would be that of the entry that is put, which is another one
        obtain ⟨w, hw⟩ := mem_textKeys.1 hput
        rcases mem_put hw with hk | ⟨u, hu⟩
        · rw [← hk, textKey?_eq_some.1 hkey] at hother
          exact hother (same_text.2 rfl)
        · exact hs (mem_textKeys.2 ⟨u, hu⟩)

/-- An entry may be added whose key is no other's. -/
theorem nodup_textKeys_append (h : (textKeys es).Nodup) {k : Data}
    (hk : (es.any fun e => same k e.1) = false) (v : α) :
    (textKeys (es ++ [(k, v)])).Nodup := by
  rw [textKeys_append, List.nodup_append]
  refine ⟨h, by cases hkey : k.textKey? <;> simp [textKeys, hkey], ?_⟩
  rintro s hs _ hlast rfl
  obtain ⟨u, hu⟩ := mem_textKeys.1 hs
  obtain ⟨w, hw⟩ := mem_textKeys.1 hlast
  obtain ⟨rfl, rfl⟩ : text s = k ∧ w = v := by simpa using hw
  have hsame := List.any_eq_false.1 hk _ hu
  exact hsame (same_text.2 rfl)

end

/-! ## Finding entries -/

theorem find?_cons_of_ne {key : String} {k : Data} (h : k ≠ text key) (v : Data)
    (es : List (Data × Data)) : find? key ((k, v) :: es) = find? key es := by
  cases k with
  | text s => exact if_neg fun hs => h (congrArg text hs)
  | _ => rfl

/-- With different text keys there is one entry for each of them. -/
theorem find?_eq_some {es : List (Data × Data)} (h : (textKeys es).Nodup) {key : String}
    {v : Data} : find? key es = some v ↔ (text key, v) ∈ es := by
  induction es with
  | nil => simp [find?]
  | cons e es ih =>
    obtain ⟨k, w⟩ := e
    rw [textKeys_cons] at h
    cases hkey : k.textKey? with
    | none =>
      rw [hkey] at h
      have hother : k ≠ text key := by
        rintro rfl
        simp [textKey?] at hkey
      rw [find?_cons_of_ne hother, ih h, List.mem_cons, or_iff_right]
      intro heq
      exact hother (congrArg Prod.fst heq).symm
    | some t =>
      obtain rfl := textKey?_eq_some.1 hkey
      obtain ⟨ht, hrest⟩ := List.nodup_cons.1 h
      rw [find?, List.mem_cons]
      split
      next heq =>
        subst heq
        have habsent : (text t, v) ∉ es := fun hmem => ht (mem_textKeys.2 ⟨v, hmem⟩)
        simp [habsent, eq_comm]
      next hne => simp [ih hrest, Ne.symm hne]

theorem find?_eq_none {es : List (Data × Data)} {key : String} (h : key ∉ textKeys es) :
    find? key es = none := by
  induction es with
  | nil => rfl
  | cons e es ih =>
    obtain ⟨k, v⟩ := e
    rw [textKeys_cons, List.mem_append] at h
    have hk : k ≠ text key := by
      rintro rfl
      exact h (.inl (by simp [textKey?]))
    rw [find?_cons_of_ne hk]
    exact ih fun hes => h (.inr hes)

theorem textKeys_fillEntries (label : Nat) (whole : Data) (es : List (Data × Data)) :
    textKeys (fillEntries label whole es) = textKeys es := by
  induction es with
  | nil => rfl
  | cons e es ih => rw [fillEntries, textKeys_cons, textKeys_cons, ih]

end CestExport.Data
