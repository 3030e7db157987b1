import CestExport.Proofs.Data.Keys
import CestExport.Proofs.Success
import CestExport.Yaml.Reading

/-!
# A table that is read has each key once

Entries are added to a table under the keys that they have, own ones and merged
ones, and in an ordered table too; a key that is there already is never added
again.  So the text keys of what a document holds are different.

    fill n  keeps the text keys of all fillings different                (keeps_fill)
    Yaml.read s = .ok d, d.entries? = some es  →
      the text keys of es are without repetition                   (nodup_textKeys_read)
-/

namespace CestExport.Yaml

open Data (textKeys)

/-! ## Algorithm -/

/-- A value that is no table, unless it goes by the number of a node. -/
def Part.Plain : Part → Prop
  | leaf d => d.entries? = none
  | pair _ _ | node _ => True

/-- A filling whose text keys are different. -/
def Filling.Keyed : Filling → Prop
  | items _ => True
  | entries es => (textKeys es).Nodup

/-- A document that is read, with plain values and keyed fillings. -/
structure Reading.Keyed (r : Reading) : Prop where
  parts : ∀ (n : Nat) (p : Part), (r.parts[n]?).join = some p → p.Plain
  fillings : ∀ n, (r.filling n).Keyed

/-- A step of reading that keeps a document keyed, and gives values with a property. -/
def Keeps {α : Type} (Q : α → Prop) (x : Read α) : Prop :=
  ∀ r, r.Keyed → ∀ a r', x.run r = .ok (a, r') → Q a ∧ r'.Keyed

/-! ## Steps -/

namespace Keeps

variable {α β : Type} {P Q : α → Prop} {R : β → Prop}

theorem pure {a : α} (h : Q a) : Keeps Q (Pure.pure a : Read α) := by
  intro r hr b r' hrun
  cases hrun
  exact ⟨h, hr⟩

theorem throw (e : Error) : Keeps Q (throw e : Read α) := by
  intro r _ a r' hrun
  cases hrun

theorem bind {x : Read α} {f : α → Read β} (hx : Keeps P x) (hf : ∀ a, P a → Keeps R (f a)) :
    Keeps R (x >>= f) := by
  intro r hr b r' hrun
  rw [StateT.run_bind] at hrun
  obtain ⟨⟨a, r₁⟩, ha, hb⟩ := bind_eq_ok.1 hrun
  obtain ⟨hP, hr₁⟩ := hx r hr a r₁ ha
  exact hf a hP r₁ hr₁ b r' hb

theorem get : Keeps Reading.Keyed (get : Read Reading) := by
  intro r hr a r' hrun
  cases hrun
  exact ⟨hr, hr⟩

theorem set {r : Reading} (h : r.Keyed) : Keeps (fun _ => True) (set r : Read PUnit) := by
  intro _ _ a r' hrun
  cases hrun
  exact ⟨trivial, h⟩

theorem modify {f : Reading → Reading} (h : ∀ r, r.Keyed → (f r).Keyed) :
    Keeps (fun _ => True) (modify f : Read PUnit) := by
  intro r hr a r' hrun
  cases hrun
  exact ⟨trivial, h r hr⟩

theorem mapM {f : α → Read β} {xs : List α} (h : ∀ x ∈ xs, Keeps R (f x)) :
    Keeps (fun ys => ∀ y ∈ ys, R y) (xs.mapM f) := by
  induction xs with
  | nil => exact pure (by simp)
  | cons x xs ih =>
    rw [List.mapM_cons]
    refine bind (h x List.mem_cons_self) fun y hy => ?_
    refine bind (ih fun z hz => h z (List.mem_cons_of_mem x hz)) fun ys hys => ?_
    exact pure (List.forall_mem_cons.2 ⟨hy, hys⟩)

theorem foldlM {f : β → α → Read β} {xs : List α} {init : β} (hinit : R init)
    (h : ∀ b, R b → ∀ x ∈ xs, Keeps R (f b x)) : Keeps R (xs.foldlM f init) := by
  induction xs generalizing init with
  | nil => exact pure hinit
  | cons x xs ih =>
    rw [List.foldlM_cons]
    refine bind (h init hinit x List.mem_cons_self) fun b hb => ?_
    exact ih hb fun b' hb' y hy => h b' hb' y (List.mem_cons_of_mem x hy)

theorem forM {f : α → Read PUnit} {xs : List α} (h : ∀ x ∈ xs, Keeps (fun _ => True) (f x)) :
    Keeps (fun _ => True) (xs.forM f) := by
  induction xs with
  | nil => exact pure trivial
  | cons x xs ih =>
    exact bind (h x List.mem_cons_self) fun _ _ =>
      ih fun y hy => h y (List.mem_cons_of_mem x hy)

theorem ite {c : Prop} [Decidable c] {x y : Read α} (hx : Keeps Q x) (hy : Keeps Q y) :
    Keeps Q (if c then x else y) := by
  split
  next => exact hx
  next => exact hy

end Keeps

/-! ## Documents -/

/-- Nothing but parts and fillings matters. -/
theorem Reading.Keyed.congr {r r' : Reading} (h : r.Keyed) (hparts : r'.parts = r.parts)
    (hfillings : r'.fillings = r.fillings) : r'.Keyed where
  parts n p hp := h.parts n p (hparts ▸ hp)
  fillings n := by
    rw [Reading.filling, hfillings]
    exact h.fillings n

theorem Reading.Keyed.setPart {r : Reading} (h : r.Keyed) {n : Nat} {p : Part} (hp : p.Plain)
    {r' : Reading} (hparts : r'.parts = r.parts.setIfInBounds n (some p))
    (hfillings : r'.fillings = r.fillings) : r'.Keyed where
  parts m q hq := by
    rw [hparts, Array.getElem?_setIfInBounds] at hq
    split at hq
    next =>
      split at hq
      next =>
        cases hq
        exact hp
      next => cases hq
    next => exact h.parts m q hq
  fillings m := by
    rw [Reading.filling, hfillings]
    exact h.fillings m

theorem keeps_setFilling (n : Nat) {f : Filling} (hf : f.Keyed) :
    Keeps (fun _ => True) (setFilling n f) := by
  refine .modify fun r hr => ⟨hr.parts, fun m => ?_⟩
  simp only [Reading.filling, Array.getElem?_setIfInBounds]
  split
  next =>
    split
    next => exact hf
    next => exact trivial
  next => exact hr.fillings m

theorem keeps_readNode (n : Nat) : Keeps (fun _ => True) (readNode n) :=
  .bind .get fun _ _ => .pure trivial

theorem keeps_mergeInto (n fuel : Nat) : Keeps (fun _ => True) (mergeInto n fuel) := by
  refine .bind .get fun r hr => ?_
  split
  next => exact .set (hr.congr rfl rfl)
  next => exact .throw _

theorem keeps_onlyEntry (n : Nat) : Keeps (fun _ => True) (onlyEntry n) := by
  refine .bind (keeps_readNode n) fun x _ => ?_
  split
  next => exact .pure trivial
  next => exact .throw _

/-! ## Scalars -/

theorem entries?_of_timestamp {t : Timestamp} {d : Data} (h : t.value = .ok d) :
    d.entries? = none := by
  unfold Timestamp.value momentOf at h
  dsimp only at h
  split at h
  next =>
    split at h
    next => cases h
    next =>
      cases h
      rfl
  next =>
    split at h
    next => cases h
    next =>
      split at h
      next =>
        cases h
        rfl
      next =>
        split at h
        next =>
          cases h
          rfl
        next => cases h

/-- No scalar is read as a table. -/
theorem entries?_of_read {t : Tag} {v : Version} {start : Mark} {s : String} {d : Data}
    (h : t.read v start s = .ok d) : d.entries? = none := by
  have hmap : ∀ {α : Type} {x : Except Error α} {f : α → Data}, (∀ a, (f a).entries? = none) →
      x.map f = .ok d → d.entries? = none := by
    intro α x f hf hx
    obtain ⟨a, _, rfl⟩ := map_eq_ok.1 hx
    exact hf a
  unfold Tag.read at h
  split at h
  next =>
    cases h
    rfl
  next => exact hmap (fun _ => rfl) h
  next => exact hmap (fun _ => rfl) h
  next => exact hmap (fun _ => rfl) h
  next =>
    cases h
    rfl
  next =>
    split at h
    next =>
      cases h
      rfl
    next => cases h
  next =>
    split at h
    next => exact entries?_of_timestamp h
    next => cases h
  next => cases h

theorem keeps_textOf (n fuel : Nat) : Keeps (fun _ => True) (textOf n fuel) := by
  induction fuel generalizing n with
  | zero => exact .throw _
  | succ fuel ih =>
    rw [textOf]
    refine .bind .get fun r _ => ?_
    dsimp only
    split
    next => exact .pure trivial
    next =>
      split
      next => exact ih _
      next => exact .throw _
    next => exact .throw _

theorem keeps_readLeaf (n fuel : Nat) : Keeps (fun d => d.entries? = none) (readLeaf n fuel) := by
  rw [readLeaf]
  refine .bind (keeps_readNode n) fun x _ => .bind .get fun r _ => ?_
  split
  next => exact .throw _
  next => exact .throw _
  next => exact .throw _
  next => exact .throw _
  next => exact .throw _
  next =>
    refine .bind (keeps_textOf n fuel) fun s _ => ?_
    split
    next d hd => exact .pure (entries?_of_read hd)
    next => exact .throw _

/-! ## Nodes -/

/-- What each step of reading nodes keeps, with so much fuel. -/
structure KeepsNodes (fuel : Nat) : Prop where
  make (whole : Bool) (n : Nat) : Keeps Part.Plain (make whole n fuel)
  begin (n : Nat) : Keeps Part.Plain (begin n fuel)
  fill (n : Nat) : Keeps (fun _ => True) (fill n fuel)
  entry (unique : Bool) {es : List (Data × Part)} (e : Nat × Nat) : (textKeys es).Nodup →
    Keeps (fun es => (textKeys es).Nodup) (entry unique es e fuel)
  orderedEntry {es : List (Data × Part)} (n : Nat) : (textKeys es).Nodup →
    Keeps (fun es => (textKeys es).Nodup) (orderedEntry es n fuel)

theorem keepsNodes_zero : KeepsNodes 0 where
  make _ _ := .throw _
  begin _ := .throw _
  fill _ := .throw _
  entry _ _ _ := fun _ => .throw _
  orderedEntry _ := fun _ => .throw _

namespace KeepsNodes

variable {fuel : Nat}

theorem make_succ (h : KeepsNodes fuel) (whole : Bool) (n : Nat) :
    Keeps Part.Plain (Yaml.make whole n (fuel + 1)) := by
  rw [Yaml.make]
  refine .bind .get fun before hbefore => ?_
  split
  next p hp => exact .pure (hbefore.parts n p hp)
  next =>
    -- the rest is the same whether all of the node is asked for or not
    have hrest : Keeps Part.Plain (if before.begun.contains n then return .leaf .null else do
        modify fun r => { r with begun := n :: r.begun }
        let p ← Yaml.begin n fuel
        modify fun r => { r with
          parts := r.parts.setIfInBounds n (some p)
          begun := r.begun.erase n
          atOnce := if whole then before.atOnce else r.atOnce }
        return p) := by
      refine .ite (.pure rfl) ?_
      refine .bind (.modify fun r hr => hr.congr rfl rfl) fun _ _ => ?_
      refine .bind (h.begin n) fun p hp => ?_
      refine .bind (.modify fun r hr => hr.setPart hp rfl rfl) fun _ _ => ?_
      exact .pure hp
    refine .ite ?_ hrest
    exact .bind (.modify fun r hr => hr.congr rfl rfl) fun _ _ => hrest

theorem begin_succ (h : KeepsNodes fuel) (n : Nat) :
    Keeps Part.Plain (Yaml.begin n (fuel + 1)) := by
  rw [Yaml.begin]
  refine .bind (keeps_readNode n) fun x _ => .ite ?_ ?_
  · refine .bind .get fun r _ => .ite ?_ ?_
    · exact .bind (h.fill n) fun _ _ => .pure trivial
    · exact .bind (.modify fun r hr => hr.congr rfl rfl) fun _ _ => .pure trivial
  · exact .bind (keeps_readLeaf n fuel) fun d hd => .pure hd

theorem fill_succ (h : KeepsNodes fuel) (n : Nat) :
    Keeps (fun _ => True) (Yaml.fill n (fuel + 1)) := by
  have hempty : (textKeys ([] : List (Data × Part))).Nodup := List.nodup_nil
  have hentries : ∀ (unique : Bool) (own : List (Nat × Nat)), Keeps (fun _ => True) (do
      setFilling n (.entries (← own.foldlM (fun es e => Yaml.entry unique es e fuel) []))) := by
    intro unique own
    refine .bind (.foldlM hempty fun es hes e _ => h.entry unique e hes) fun es hes => ?_
    exact keeps_setFilling n hes
  rw [Yaml.fill]
  refine .bind (keeps_readNode n) fun x _ => ?_
  split
  next =>
    refine .bind (.mapM fun i _ => h.make false i) fun ps _ => ?_
    exact keeps_setFilling n trivial
  next =>
    refine .bind (.mapM (R := fun _ => True) fun i _ => ?_) fun ps _ => keeps_setFilling n trivial
    refine .bind (keeps_onlyEntry i) fun e _ => ?_
    refine .bind (h.make false e.1) fun _ _ => .bind (h.make false e.2) fun _ _ => ?_
    exact .pure trivial
  next =>
    refine .bind (.foldlM hempty fun es hes i _ => h.orderedEntry i hes) fun es hes => ?_
    exact keeps_setFilling n hes
  next =>
    refine .bind (keeps_mergeInto n fuel) fun _ _ => .bind .get fun r _ => ?_
    dsimp only
    split
    next => exact hentries true _
    next => exact hentries false _
  next =>
    refine .bind (keeps_mergeInto n fuel) fun _ _ => .bind .get fun r _ => ?_
    dsimp only
    split
    next => exact hentries true _
    next => exact hentries false _
  next => exact .throw _

theorem entry_succ (h : KeepsNodes fuel) (unique : Bool) {es : List (Data × Part)} (e : Nat × Nat)
    (hes : (textKeys es).Nodup) :
    Keeps (fun es => (textKeys es).Nodup) (Yaml.entry unique es e (fuel + 1)) := by
  rw [Yaml.entry]
  refine .bind (keeps_readNode e.1) fun x _ => .bind (h.make true e.1) fun key _ => ?_
  refine .bind .get fun r _ => .ite (.bind (.throw _) fun _ (_ : False) => by contradiction) ?_
  refine .bind .get fun r' _ => .bind (h.make false e.2) fun value _ => ?_
  split
  next => exact .throw _
  next k _ =>
    refine .ite (.bind (.throw _) fun _ (_ : False) => by contradiction) ?_
    exact .pure (Data.nodup_textKeys_put hes k value)

theorem orderedEntry_succ (h : KeepsNodes fuel) {es : List (Data × Part)} (n : Nat)
    (hes : (textKeys es).Nodup) :
    Keeps (fun es => (textKeys es).Nodup) (Yaml.orderedEntry es n (fuel + 1)) := by
  rw [Yaml.orderedEntry]
  refine .bind (keeps_onlyEntry n) fun e _ => .bind (h.make false e.1) fun key _ => ?_
  refine .bind .get fun r _ => ?_
  split
  next => exact .throw _
  next d _ =>
    split
    next => exact .bind (.throw _) fun _ (_ : False) => by contradiction
    next hnew =>
      refine .bind (h.make false e.2) fun value _ => .pure ?_
      exact Data.nodup_textKeys_append hes (by simpa using hnew) value

end KeepsNodes

theorem keepsNodes (fuel : Nat) : KeepsNodes fuel := by
  induction fuel with
  | zero => exact keepsNodes_zero
  | succ fuel ih =>
    exact ⟨ih.make_succ, ih.begin_succ, ih.fill_succ, ih.entry_succ, ih.orderedEntry_succ⟩

/-! ## Documents as a whole -/

theorem keeps_rounds (depth fuel : Nat) : Keeps (fun _ => True) (rounds depth fuel) := by
  induction fuel with
  | zero => exact .throw _
  | succ fuel ih =>
    rw [rounds]
    refine .bind .get fun r hr => .ite ?_ (.pure trivial)
    refine .bind (.set (hr.congr rfl rfl)) fun _ _ => ?_
    exact .bind (.forM fun n _ => (keepsNodes depth).fill n) fun _ _ => ih

theorem keeps_root (root depth fuel : Nat) : Keeps Part.Plain (do
    let p ← make false root depth
    rounds depth fuel
    return p) := by
  refine .bind ((keepsNodes depth).make false root) fun p hp => ?_
  exact .bind (keeps_rounds depth fuel) fun _ _ => .pure hp

/-- Nothing is made and filled at first. -/
theorem Reading.keyed_of_empty {r : Reading} {size : Nat}
    (hparts : r.parts = Array.replicate size none)
    (hfillings : r.fillings = Array.replicate size (.items [])) : r.Keyed where
  parts n p hp := by
    rw [hparts, Array.getElem?_replicate] at hp
    split at hp <;> cases hp
  fillings n := by
    rw [Reading.filling, hfillings, Array.getElem?_replicate]
    split <;> trivial

/-- The keys of a collection are those of its filling, whether it holds itself or not. -/
theorem textKeys_closed {n : Nat} {k : CollectionKind} {items : List Data}
    {entries es : List (Data × Data)}
    (h : (closed n (collectionOf k items entries)).entries? = some es) :
    textKeys es = textKeys entries := by
  unfold closed at h
  split at h
  next =>
    cases k <;> cases h
    all_goals rfl
  next =>
    cases k <;> cases h
    all_goals exact Data.textKeys_fillEntries _ _ _

/-- What a plain part of a keyed document stands for has different text keys. -/
theorem nodup_textKeys_assemble {r : Reading} (hr : r.Keyed) {p : Part} (hp : p.Plain)
    {fuel : Nat} {around : List Nat} {es : List (Data × Data)}
    (h : (assemble r fuel around p).entries? = some es) : (textKeys es).Nodup := by
  unfold assemble at h
  split at h
  next => cases h
  next d =>
    rw [show d.entries? = none from hp] at h
    cases h
  next => cases h
  next n =>
    split at h
    next => cases h
    next =>
      dsimp only at h
      split at h
      next =>
        rw [textKeys_closed h]
        exact List.nodup_nil
      next ps hps =>
        have hfilling : (Filling.entries ps).Keyed := hps ▸ hr.fillings n
        rw [textKeys_closed h, textKeys, List.filterMap_map]
        exact hfilling

/-- The table that a document holds, if it holds one, has each of its text keys once. -/
theorem nodup_textKeys_read {s : String} {d : Data} {es : List (Data × Data)}
    (h : read s = .ok d) (hes : d.entries? = some es) : (textKeys es).Nodup := by
  obtain ⟨document?, _, h⟩ := bind_eq_ok.1 h
  cases document? with
  | none =>
    cases h
    cases hes
  | some document =>
    obtain ⟨⟨p, r⟩, hrun, h⟩ := bind_eq_ok.1 h
    cases h
    obtain ⟨hp, hr⟩ := keeps_root _ _ _ _ (Reading.keyed_of_empty rfl rfl) p r hrun
    exact nodup_textKeys_assemble hr hp hes

end CestExport.Yaml
