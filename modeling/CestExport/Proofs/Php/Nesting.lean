import CestExport.Emission
import CestExport.Proofs.Php.Brackets

/-!
# Levels and braces

The lines of a block `Nests` from one depth to another if each of them is closed
and stands at the level of the braces open around it; a line that begins by
closing a brace stands outside that brace.

    Nests i xs j  →  Nests j ys k  →  Nests i (xs ++ ys) k                  (Nests.append)
    Nests i ls j  →  braces ls = j - i                                        (Nests.braces_eq)
-/

namespace CestExport.Php

/-! ## Algorithm -/

/-- By how much the braces opened in lines exceed those closed in them. -/
def braces : List Line → Int
  | [] => 0
  | l :: ls => (braces? l.text).getD 0 + braces ls

/-- By how much a line stands outside the depth in front of it. -/
def outdent (text : String) : Int :=
  if beginsClosing text then 1 else 0

/-- Closed lines that stand at the depth of the braces around them. -/
inductive Nests : Int → List Line → Int → Prop
  | nil (d : Int) : Nests d [] d
  | cons {d d' k : Int} {l : Line} {ls : List Line} :
    Closed k l.text → l.level = d - outdent l.text → Nests (d + k) ls d' → Nests d (l :: ls) d'

/-- A closed text that a line may begin with: not empty, and no closing brace in front. -/
structure Phrase (text : String) : Prop where
  closed : Closed 0 text
  ne_empty : text ≠ ""
  opens : beginsClosing text = false

/-! ## Lemmas -/

theorem beginsClosing_append {a : String} (h : a ≠ "") (b : String) :
    beginsClosing (a ++ b) = beginsClosing a := by
  unfold beginsClosing
  rw [String.toList_append]
  cases ha : a.toList with
  | nil => exact absurd (String.toList_eq_nil_iff.1 ha) h
  | cons c cs => rfl

theorem append_ne_empty {a : String} (h : a ≠ "") (b : String) : a ++ b ≠ "" := by
  intro hab
  exact h (String.append_eq_empty_iff.1 hab).1

theorem template_ne_empty {first : String} (h : first ≠ "") (holes fixed : List String) :
    template first holes fixed ≠ "" := by
  fun_induction template first holes fixed with
  | case1 first hole holes next fixed ih => exact ih (append_ne_empty (append_ne_empty h hole) next)
  | case2 => exact h

theorem beginsClosing_template {first : String} (h : first ≠ "") (holes fixed : List String) :
    beginsClosing (template first holes fixed) = beginsClosing first := by
  fun_induction template first holes fixed with
  | case1 first hole holes next fixed ih =>
    have hhole : first ++ hole ≠ "" := append_ne_empty h hole
    rw [ih (append_ne_empty hhole next), beginsClosing_append hhole, beginsClosing_append h]
  | case2 => rfl

theorem template_append (a first : String) (holes fixed : List String) :
    template (a ++ first) holes fixed = a ++ template first holes fixed := by
  fun_induction template first holes fixed with
  | case1 first hole holes next fixed ih =>
    rw [← ih, ← String.append_assoc, ← String.append_assoc]
    rfl
  | case2 first holes fixed h =>
    unfold template
    split
    next => exact absurd rfl (h _ _ _ _ rfl)
    next => rfl

theorem beginsWith_append (a b : String) : Text.beginsWith a (a ++ b) = true := by
  rw [Text.beginsWith, String.toList_append, List.isPrefixOf_iff_prefix]
  exact List.prefix_append a.toList b.toList

theorem beginsWith_template (first : String) (holes fixed : List String) :
    Text.beginsWith first (template first holes fixed) = true := by
  have h := template_append first "" holes fixed
  rw [String.append_empty] at h
  rw [h]
  exact beginsWith_append first _

/-- Two texts of which one begins the other begin with the same character. -/
theorem beginsWith_eq_false {a b : String} {c d : Char} (ha : a.toList.head? = some c)
    (hb : b.toList.head? = some d) (h : c ≠ d) : Text.beginsWith a b = false := by
  unfold Text.beginsWith
  cases hac : a.toList with
  | nil => simp [hac] at ha
  | cons x xs =>
    cases hbd : b.toList with
    | nil => simp [hbd] at hb
    | cons y ys =>
      rw [hac, List.head?_cons, Option.some.injEq] at ha
      rw [hbd, List.head?_cons, Option.some.injEq] at hb
      subst ha hb
      simp [List.isPrefixOf, h]

theorem head?_append {a : String} {c : Char} (h : a.toList.head? = some c) (b : String) :
    (a ++ b).toList.head? = some c := by
  rw [String.toList_append, List.head?_append, h]
  rfl

theorem braces_nil : braces [] = 0 := rfl

theorem braces_cons (l : Line) (ls : List Line) :
    braces (l :: ls) = (braces? l.text).getD 0 + braces ls := rfl

theorem braces_append (xs ys : List Line) : braces (xs ++ ys) = braces xs + braces ys := by
  induction xs with
  | nil => simp [braces]
  | cons l ls ih => rw [List.cons_append, braces_cons, braces_cons, ih, Int.add_assoc]

/-! ## Phrases -/

theorem Phrase.outdent_eq {text : String} (h : Phrase text) : outdent text = 0 := by
  simp [outdent, h.opens]

theorem Phrase.braces_eq {text : String} (h : Phrase text) (level : Int) (ls : List Line) :
    braces (⟨level, text⟩ :: ls) = braces ls := by
  rw [braces_cons, show braces? text = some 0 from h.closed, Option.getD_some, Int.zero_add]

theorem Phrase.append {a b : String} (ha : Phrase a) (hb : Closed 0 b) : Phrase (a ++ b) where
  closed := ha.closed.append hb
  ne_empty := append_ne_empty ha.ne_empty b
  opens := by rw [beginsClosing_append ha.ne_empty, ha.opens]

/-- Fixed texts around closed ones are a phrase if the first of them begins one. -/
theorem phrase_template (first : String) (holes fixed : List String)
    (hfirst : first ≠ "" ∧ beginsClosing first = false)
    (hlength : holes.length = fixed.length)
    (hfixed : Scan.runFixed {} (first :: fixed) = some {})
    (hholes : ∀ t ∈ holes, Closed 0 t) : Phrase (template first holes fixed) where
  closed := closed_template first holes fixed hlength hfixed hholes
  ne_empty := template_ne_empty hfirst.1 holes fixed
  opens := by rw [beginsClosing_template hfirst.1, hfirst.2]

/-- A phrase in front of fixed texts around closed ones. -/
theorem Phrase.template {a : String} (ha : Phrase a) (first : String) (holes fixed : List String)
    (hlength : holes.length = fixed.length)
    (hfixed : Scan.runFixed {} (first :: fixed) = some {})
    (hholes : ∀ t ∈ holes, Closed 0 t) : Phrase (Php.template (a ++ first) holes fixed) := by
  rw [template_append]
  exact ha.append (closed_template first holes fixed hlength hfixed hholes)

theorem phrase_read (name : String) : Phrase (read name) where
  closed := closed_read name
  ne_empty := append_ne_empty (append_ne_empty (by decide) (quote name)) "]"
  opens := by
    have hmark : readMark ≠ "" := by decide
    rw [read, beginsClosing_append (append_ne_empty hmark _), beginsClosing_append hmark]
    rfl

/-! ## Lines -/

namespace Nests

theorem append {i j k : Int} {xs ys : List Line} (hx : Nests i xs j) (hy : Nests j ys k) :
    Nests i (xs ++ ys) k := by
  induction hx with
  | nil => exact hy
  | cons hc hl _ ih => exact .cons hc hl (ih hy)

/-- Lines that nest still do when all of them are moved to another level. -/
theorem raise {i j : Int} {ls : List Line} (h : Nests i ls j) (n : Int) :
    Nests (n + i) (ls.map fun l => ⟨n + l.level, l.text⟩) (n + j) := by
  induction h with
  | nil => exact .nil _
  | @cons d d' k l ls hc hl _ ih =>
    refine .cons hc ?_ (by rw [Int.add_assoc]; exact ih)
    show n + l.level = n + d - outdent l.text
    omega

theorem closed {i j : Int} {ls : List Line} (h : Nests i ls j) :
    ∀ l ∈ ls, ∃ k, Closed k l.text := by
  induction h with
  | nil => simp
  | cons hc _ _ ih => exact List.forall_mem_cons.2 ⟨⟨_, hc⟩, ih⟩

theorem braces_eq {i j : Int} {ls : List Line} (h : Nests i ls j) : braces ls = j - i := by
  induction h with
  | nil => simp [braces]
  | @cons d d' k l ls hc _ _ ih =>
    rw [braces_cons, ih, show braces? l.text = some k from hc, Option.getD_some]
    omega

/-- A line that begins with a phrase and closes what it opens. -/
theorem phrase {d d' : Int} {text : String} {ls : List Line} (h : Phrase text)
    (hls : Nests d ls d') : Nests d (⟨d, text⟩ :: ls) d' :=
  .cons h.closed (by simp [h.outdent_eq]) (by simpa using hls)

/-- A line made of fixed texts around closed ones. -/
theorem line {d d' k : Int} (first : String) (holes fixed : List String) {ls : List Line}
    (hfirst : first ≠ "") (hlength : holes.length = fixed.length)
    (hfixed : Scan.runFixed {} (first :: fixed) = some ⟨.code, [], k⟩)
    (hholes : ∀ t ∈ holes, Closed 0 t) (hls : Nests (d + k) ls d') :
    Nests d (⟨d - outdent first, template first holes fixed⟩ :: ls) d' := by
  refine .cons (closed_template first holes fixed hlength hfixed hholes) ?_ hls
  simp [outdent, beginsClosing_template hfirst]

end Nests

end CestExport.Php
