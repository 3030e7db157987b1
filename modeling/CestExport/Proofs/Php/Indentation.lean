import CestExport.Proofs.Php.Nesting

/-!
# Indentation

Lines are indented if each of them stands at the depth of the braces that the
lines in front of it leave open.  Lines that nest are indented; unlike nesting,
indentation can be asked of lines whose levels are wrong.

    Indented d (xs ++ ys)  ↔  Indented d xs ∧ Indented (d + braces xs) ys  (indented_append)
    moving lines and depth together changes nothing                        (indented_raise)
    Nests i ls j  →  Indented i ls                                         (Nests.indented)
-/

namespace CestExport.Php

/-! ## Algorithm -/

/-- Lines that stand, from a depth on, at the depth of the braces open in front of them; a line
that begins by closing a brace stands outside that brace. -/
def Indented (d : Int) (ls : List Line) : Prop :=
  ∀ front l behind, ls = front ++ l :: behind → l.level = d + braces front - outdent l.text

/-! ## Lemmas -/

theorem indented_nil (d : Int) : Indented d [] := by
  intro front l behind h
  simp at h

theorem indented_cons {d : Int} {l : Line} {ls : List Line} :
    Indented d (l :: ls) ↔
      l.level = d - outdent l.text ∧ Indented (d + (braces? l.text).getD 0) ls := by
  constructor
  · intro h
    refine ⟨by simpa [braces_nil] using h [] l ls rfl, ?_⟩
    rintro front m behind rfl
    rw [h (l :: front) m behind rfl, braces_cons]
    omega
  · rintro ⟨hl, hls⟩ front m behind h
    cases front with
    | nil =>
      obtain ⟨rfl, rfl⟩ := List.cons.inj h
      simpa [braces_nil] using hl
    | cons n front =>
      obtain ⟨rfl, rfl⟩ := List.cons.inj h
      rw [hls front m behind rfl, braces_cons]
      omega

theorem indented_append {d : Int} {xs ys : List Line} :
    Indented d (xs ++ ys) ↔ Indented d xs ∧ Indented (d + braces xs) ys := by
  induction xs generalizing d with
  | nil => simp [indented_nil, braces_nil]
  | cons l ls ih =>
    rw [List.cons_append, indented_cons, indented_cons, ih, braces_cons, and_assoc, Int.add_assoc]

/-- Moving all lines and the depth in front of them together. -/
theorem indented_raise (n d : Int) (ls : List Line) :
    Indented (n + d) (ls.map fun l => ⟨n + l.level, l.text⟩) ↔ Indented d ls := by
  induction ls generalizing d with
  | nil => simp [indented_nil]
  | cons l ls ih =>
    rw [List.map_cons, indented_cons, indented_cons, Int.add_assoc, ih]
    refine and_congr_left fun _ => ?_
    show n + l.level = n + d - outdent l.text ↔ l.level = d - outdent l.text
    omega

theorem braces_raise (n : Int) (ls : List Line) :
    braces (ls.map fun l => ⟨n + l.level, l.text⟩) = braces ls := by
  induction ls with
  | nil => rfl
  | cons l ls ih => rw [List.map_cons, braces_cons, braces_cons, ih]

theorem indented_phrase {d level : Int} {text : String} (h : Phrase text) {ls : List Line} :
    Indented d (⟨level, text⟩ :: ls) ↔ level = d ∧ Indented d ls := by
  rw [indented_cons, show braces? text = some 0 from h.closed, Option.getD_some, Int.add_zero,
    h.outdent_eq, Int.sub_zero]

theorem Nests.indented {i j : Int} {ls : List Line} (h : Nests i ls j) : Indented i ls := by
  induction h with
  | nil => exact indented_nil _
  | cons hc hl _ ih =>
    rw [indented_cons, show braces? _ = some _ from hc, Option.getD_some]
    exact ⟨hl, ih⟩

/-! ## Empty lines -/

theorem braces_filter_ne_empty (ls : List Line) :
    braces (ls.filter (·.text != "")) = braces ls := by
  induction ls with
  | nil => rfl
  | cons l ls ih =>
    rw [List.filter_cons]
    split
    next => rw [braces_cons, braces_cons, ih]
    next hempty =>
      have htext : l.text = "" := by simpa using hempty
      rw [ih, braces_cons, htext, show braces? "" = some 0 from closed_empty, Option.getD_some,
        Int.zero_add]

/-- Without its empty lines, what is indented stays so. -/
theorem Indented.filter_ne_empty {d : Int} {ls : List Line} (h : Indented d ls) :
    Indented d (ls.filter (·.text != "")) := by
  induction ls generalizing d with
  | nil => exact h
  | cons l ls ih =>
    obtain ⟨hl, hls⟩ := indented_cons.1 h
    rw [List.filter_cons]
    split
    next => exact indented_cons.2 ⟨hl, ih hls⟩
    next hempty =>
      have htext : l.text = "" := by simpa using hempty
      rw [htext, show braces? "" = some 0 from closed_empty, Option.getD_some, Int.add_zero] at hls
      exact ih hls

end CestExport.Php
