import CestExport.Proofs.Php.Pasted

/-!
# Lines that assign a variable

A line assigns the variable whose read it begins with, followed by an equals sign.
A name can be read back from the literal it is written in, so an assignment is one
of its own variable only; a text that can never begin as a read does assigns none.

    (assignment m expression).Assigns n  ↔  n = m                      (assigns_assignment)
    Unread a  →  Unread (a ++ b)                                           (Unread.append)
    Unread text  →  ¬Assigns text n                                     (Unread.not_assigns)
-/

namespace CestExport.Php

/-! ## Algorithm -/

/-- A text that begins by assigning the variable with a name. -/
def Assigns (text name : String) : Prop :=
  Text.beginsWith (read name ++ " = ") text = true

/-- A text that does not begin as a read of a variable does, nor is itself such a beginning. -/
structure Unread (text : String) : Prop where
  not_read : isRead text = false
  not_mark : Text.beginsWith text readMark = false

/-! ## Lemmas -/

theorem beginsWith_iff {a b : String} :
    Text.beginsWith a b = true ↔ a.toList <+: b.toList :=
  List.isPrefixOf_iff_prefix

theorem beginsWith_false_iff {a b : String} :
    Text.beginsWith a b = false ↔ ¬a.toList <+: b.toList := by
  rw [← beginsWith_iff, Bool.not_eq_true]

/-! ## Assignments -/

theorem toList_read (name : String) :
    (read name).toList = readMark.toList ++ (quoteChars name.toList ++ [']']) := by
  simp [read, quote]

/-- The name of the variable stands in the assignment, and can be read back. -/
theorem assigns_assignment {m expression n : String} :
    Assigns (Scope.assignment m expression) n ↔ n = m := by
  have htext : (Scope.assignment m expression).toList =
      readMark.toList ++ (quoteChars m.toList ++ (']' :: " = ".toList ++
        (expression ++ ";").toList)) := by
    show (read m ++ " = " ++ expression ++ ";").toList = _
    simp [toList_read]
  rw [Assigns, beginsWith_iff]
  constructor
  · rintro ⟨rest, hrest⟩
    rw [htext, String.toList_append, toList_read] at hrest
    simp only [List.append_assoc, List.append_cancel_left_eq] at hrest
    have hscan := congrArg scan? hrest
    rw [scan?_quoteChars, scan?_quoteChars] at hscan
    simp only [Option.some.injEq, Prod.mk.injEq] at hscan
    exact String.toList_inj.1 hscan.1
  · rintro rfl
    refine ⟨(expression ++ ";").toList, ?_⟩
    rw [htext, String.toList_append, toList_read]
    simp

/-! ## Other texts -/

theorem Unread.append {a : String} (h : Unread a) (b : String) : Unread (a ++ b) := by
  have hread := beginsWith_false_iff.1 h.not_read
  have hmark := beginsWith_false_iff.1 h.not_mark
  constructor
  · refine beginsWith_false_iff.2 fun hprefix => ?_
    rw [String.toList_append] at hprefix
    rcases List.prefix_or_prefix_of_prefix hprefix (List.prefix_append a.toList b.toList) with h | h
    · exact hread h
    · exact hmark h
  · refine beginsWith_false_iff.2 fun hprefix => ?_
    rw [String.toList_append] at hprefix
    exact hmark ((List.prefix_append a.toList b.toList).trans hprefix)

theorem unread_template (first : String) (holes fixed : List String) (h : Unread first) :
    Unread (template first holes fixed) := by
  have htemplate := template_append first "" holes fixed
  rw [String.append_empty] at htemplate
  rw [htemplate]
  exact h.append _

theorem Unread.not_assigns {text : String} (h : Unread text) (name : String) :
    ¬Assigns text name := by
  rw [Assigns, beginsWith_iff]
  intro hprefix
  have hmark : readMark.toList <+: (read name ++ " = ").toList := by
    rw [String.toList_append, toList_read, List.append_assoc]
    exact List.prefix_append _ _
  exact beginsWith_false_iff.1 h.not_read (hmark.trans hprefix)

/-- The tester is another variable than the one that holds the variables. -/
theorem unread_tester : Unread "$I->" := ⟨rfl, rfl⟩

/-- A call of a method, whose name holds no bracket, is no read. -/
theorem unread_call {method : String} (h : ∀ c ∈ method.toList, isNameChar c = true) :
    Unread s!"$this->{method}($I);" := by
  have htext : (s!"$this->{method}($I);").toList =
      "$this->".toList ++ (method.toList ++ "($I);".toList) := by
    show ("$this->" ++ method ++ "($I);").toList = _
    simp
  have hmark : readMark.toList = "$this->".toList ++ "vars[".toList := by decide
  constructor
  · refine beginsWith_false_iff.2 fun hprefix => ?_
    rw [htext, hmark, List.prefix_append_right_inj] at hprefix
    have hcall : method.toList ++ ['('] <+: method.toList ++ "($I);".toList := by simp
    -- the name ends before the bracket of a read, or holds it
    rcases List.prefix_or_prefix_of_prefix hprefix hcall with hshort | hlong
    · have hmem : '[' ∈ method.toList ++ ['('] := hshort.subset (by decide)
      have hname : '[' ∈ method.toList := by simpa using hmem
      exact absurd (h '[' hname) (by decide)
    · have hmem : '(' ∈ "vars[".toList := hlong.subset (by simp)
      exact absurd hmem (by decide)
  · refine beginsWith_false_iff.2 fun hprefix => ?_
    have hmem : '(' ∈ readMark.toList := hprefix.subset (by rw [htext]; simp)
    exact absurd hmem (by decide)

end CestExport.Php
