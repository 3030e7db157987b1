import CestExport.Data.Check
import CestExport.Proofs.Data.Keys
import Mathlib.Data.List.Forall2

/-!
# Data that checks cannot tell apart

A record asks its table for some keys and for no others.  Two tables that hold the
same under these keys, or parts that are alike again, give the same record or the
same faults, whatever else they hold and in whatever order.

    k is no field's key  →  fs is like es, then put (text k) v fs is too       (AlikeEntries.put)
-/

namespace CestExport

open Data (find?)

/-! ## Algorithm -/

/-- Relations between the values of some keys. -/
abbrev PartRelations := List (String × (Data → Data → Prop))

/-- Two lists of entries that hold the same under plain keys, and related values under the keys of
parts. -/
structure AlikeEntries (plain : List String) (parts : PartRelations)
    (es fs : List (Data × Data)) : Prop where
  same : ∀ key ∈ plain, find? key fs = find? key es
  related : ∀ part ∈ parts, Option.Rel part.2 (find? part.1 es) (find? part.1 fs)

/-- The same value twice, or two tables with entries that are alike. -/
inductive AlikeRecords (plain : List String) (parts : PartRelations) : Data → Data → Prop
  | same (d : Data) : AlikeRecords plain parts d d
  | tables {d d' : Data} {es fs : List (Data × Data)} : d.entries? = some es →
      d'.entries? = some fs → AlikeEntries plain parts es fs → AlikeRecords plain parts d d'

/-- The same value twice, or two collections whose items are related one by one. -/
inductive AlikeItems (R : Data → Data → Prop) : Data → Data → Prop
  | same (d : Data) : AlikeItems R d d
  | lists {d d' : Data} {ds es : List Data} : d.items? = some ds → d'.items? = some es →
      List.Forall₂ R ds es → AlikeItems R d d'

/-! ## Putting entries -/

namespace Data

theorem find?_put_of_ne {k key : String} (h : k ≠ key) (v : Data) (es : List (Data × Data)) :
    find? key (put (text k) v es) = find? key es := by
  induction es with
  | nil => exact if_neg h
  | cons e es ih =>
    obtain ⟨k', w⟩ := e
    rw [put]
    split
    next hsame =>
      obtain rfl := same_text.1 hsame
      have hother : text k ≠ text key := fun heq => h (Data.text.inj heq)
      rw [find?_cons_of_ne hother, find?_cons_of_ne hother]
    next =>
      by_cases hkey : k' = text key
      · subst hkey
        rw [find?, find?, if_pos rfl, if_pos rfl]
      · rw [find?_cons_of_ne hkey, find?_cons_of_ne hkey, ih]

end Data

section

variable {plain : List String} {parts : PartRelations} {es fs : List (Data × Data)}

theorem AlikeEntries.refl (hsame : ∀ part ∈ parts, ∀ d, part.2 d d) (es : List (Data × Data)) :
    AlikeEntries plain parts es es where
  same := by
    intro key _
    rfl
  related := by
    intro part hpart
    cases find? part.1 es with
    | none => exact .none
    | some d => exact .some (hsame part hpart d)

/-- Whatever is put under a key that no field has, the entries stay alike. -/
theorem AlikeEntries.put (h : AlikeEntries plain parts es fs) {k : String}
    (hk : k ∉ plain ++ parts.map Prod.fst) (v : Data) :
    AlikeEntries plain parts es (Data.put (.text k) v fs) := by
  rw [List.mem_append, not_or] at hk
  constructor
  case same =>
    intro key hkey
    have hne : k ≠ key := by
      rintro rfl
      exact hk.1 hkey
    rw [Data.find?_put_of_ne hne]
    exact h.same key hkey
  case related =>
    intro part hpart
    have hne : k ≠ part.1 := by
      rintro rfl
      exact hk.2 (List.mem_map_of_mem hpart)
    rw [Data.find?_put_of_ne hne]
    exact h.related part hpart

theorem AlikeRecords.put {d : Data} (h : AlikeRecords plain parts d (.table fs)) {k : String}
    (hk : k ∉ plain ++ parts.map Prod.fst) (hsame : ∀ part ∈ parts, ∀ d, part.2 d d) (v : Data) :
    AlikeRecords plain parts d (.table (Data.put (.text k) v fs)) := by
  cases h with
  | same => exact .tables rfl rfl ((AlikeEntries.refl hsame fs).put hk v)
  | tables hd hfs hentries =>
    cases hfs
    exact .tables hd rfl (hentries.put hk v)

end

/-! ## Checks -/

namespace Check

open Checked

variable {α : Type} {plain : List String} {parts : PartRelations} {R : Data → Data → Prop}
  {es fs : List (Data × Data)} {d d' : Data}

theorem lookup_congr {keys : List String} (h : ∀ key ∈ keys, find? key fs = find? key es) :
    lookup fs keys = lookup es keys := by
  induction keys with
  | nil => rfl
  | cons key keys ih =>
    have hrest : lookup fs keys = lookup es keys :=
      ih fun k hk => h k (List.mem_cons_of_mem key hk)
    unfold lookup at hrest ⊢
    rw [List.findSome?_cons, List.findSome?_cons, h key List.mem_cons_self, hrest]

theorem lookup_singleton (es : List (Data × Data)) (key : String) :
    lookup es [key] = find? key es := by
  unfold lookup
  rw [List.findSome?_cons, List.findSome?_nil]
  cases find? key es <;> rfl

/-- A field with plain keys is the same in entries that are alike. -/
theorem field_plain (h : AlikeEntries plain parts es fs) (key : String) (others : List String)
    (hkeys : ∀ k ∈ key :: others, k ∈ plain) (default : α) (check : Data → Checked α) :
    field fs key others default check = field es key others default check := by
  have hlookup : lookup fs (key :: others) = lookup es (key :: others) :=
    lookup_congr fun k hk => h.same k (hkeys k hk)
  rw [field, field, hlookup]

theorem required_plain (h : AlikeEntries plain parts es fs) (key : String) (hkey : key ∈ plain)
    (check : Data → Checked α) : required fs key check = required es key check := by
  rw [required, required, lookup_singleton, lookup_singleton, h.same key hkey]

/-- A field with a part is the same if the check of the part does not tell related values apart. -/
theorem field_part (h : AlikeEntries plain parts es fs) {key : String} (hpart : (key, R) ∈ parts)
    (default : α) {check : Data → Checked α} (hcheck : ∀ v w, R v w → check w = check v) :
    field fs key [] default check = field es key [] default check := by
  have hrelated : Option.Rel R (find? key es) (find? key fs) := h.related _ hpart
  rw [field, field, lookup_singleton, lookup_singleton]
  generalize find? key es = x, find? key fs = y at hrelated
  cases hrelated with
  | none => rfl
  | some hvw => exact congrArg (inside (.key key)) (hcheck _ _ hvw)

theorem record_congr (h : AlikeRecords plain parts d d') (name : String)
    {check : List (Data × Data) → Checked α}
    (hcheck : ∀ es fs, AlikeEntries plain parts es fs → check fs = check es) :
    record name check d' = record name check d := by
  cases h with
  | same => rfl
  | tables hd hd' hentries =>
    rw [record, record, hd, hd']
    exact hcheck _ _ hentries

/-- Tables are not null, so that an optional part is there in both values or in none. -/
theorem nullable_congr (h : AlikeRecords plain parts d d') {check : Data → Checked α}
    (hcheck : check d' = check d) : nullable check d' = nullable check d := by
  cases h with
  | same => rfl
  | tables hd hd' _ =>
    have hmap : ∀ {v : Data} {vs}, v.entries? = some vs →
        nullable check v = (check v).map some := by
      intro v vs hv
      cases v with
      | null => cases hv
      | _ => rfl
    rw [hmap hd, hmap hd', hcheck]

theorem each_congr {check : Data → Checked α} (hcheck : ∀ v w, R v w → check w = check v)
    {ds ds' : List Data} (h : List.Forall₂ R ds ds') (n : Nat) :
    each check n ds' = each check n ds := by
  induction h generalizing n with
  | nil => rfl
  | cons hvw _ ih => rw [each, each, hcheck _ _ hvw, ih (n + 1)]

theorem list_congr {check : Data → Checked α} (hcheck : ∀ v w, R v w → check w = check v)
    (h : AlikeItems R d d') : list check d' = list check d := by
  cases h with
  | same => rfl
  | lists hd hd' hitems =>
    rw [list, items, items, hd, hd']
    exact each_congr hcheck hitems 0

end Check

end CestExport
