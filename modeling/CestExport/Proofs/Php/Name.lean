import CestExport.Proofs.Php.Arguments
import CestExport.Proofs.XPath

/-!
# Names are identifiers

A name that is made from a text is an identifier with the name characters of the
text, and a name that is an identifier is made from itself.  The name of a class is
made from the words of the project's name, of which it keeps every letter and digit.

    identifier? s = none           ↔  no character of s is one of a name
                                                            (identifier?_eq_none_iff)
    identifier? s = some name      →  NameOf (nameChars s) name  (nameOf_of_identifier?)
    identifier? name = some name   ↔  name is an identifier       (identifier?_eq_self_iff)
    className? p suffix = none     ↔  p has no letter and no digit, and suffix no
                                        character of a name  (className?_eq_none_iff)
-/

namespace CestExport

/-! ## Algorithm -/

/-- A name made from characters: an identifier that has them all in their order, behind one
underscore at most, and that becomes no other name when a name is made from it. -/
structure Php.NameOf (cs : List Char) (name : String) : Prop where
  identifier : isIdentifier name.toList = true
  characters : name.toList = cs ∨ name.toList = '_' :: cs
  stable : identifier? name = some name

/-! ## Letters and digits -/

namespace Text

theorem lt_of_isAlphanum {c : Char} (h : c.isAlphanum = true) : c.toNat < 0x80 := by
  have hclass : (c.isUpper || c.isLower || c.isDigit) = true := h
  rw [Bool.or_eq_true, Bool.or_eq_true] at hclass
  have hbelow : ∀ last : Char, c.val ≤ last.val → last.toNat < 0x80 → c.toNat < 0x80 :=
    fun last hle hlast => Nat.lt_of_le_of_lt (UInt32.le_iff_toNat_le.1 hle) hlast
  rcases hclass with (hupper | hlower) | hdigit
  · exact hbelow 'Z' (of_decide_eq_true hupper).2 (by decide)
  · exact hbelow 'z' (of_decide_eq_true (Bool.and_eq_true_iff.1 hlower).2) (by decide)
  · exact hbelow '9' (of_decide_eq_true (Bool.and_eq_true_iff.1 hdigit).2) (by decide)

/-- The capital of a letter or digit is one, and the same but for its case. -/
theorem toUpper_of_isAlphanum {c : Char} (h : c.isAlphanum = true) :
    c.toUpper.isAlphanum = true ∧ c.toUpper.toLower = c.toLower := by
  have hall : ∀ n < 0x80, (Char.ofNat n).isAlphanum = true →
      (Char.ofNat n).toUpper.isAlphanum = true ∧
        (Char.ofNat n).toUpper.toLower = (Char.ofNat n).toLower := by
    decide +kernel
  have hc := hall c.toNat (lt_of_isAlphanum h)
  rw [Char.ofNat_toNat] at hc
  exact hc h

/-- The pieces of a text have all of it but the separators. -/
theorem flatten_splitChars (p : Char → Bool) (cs : List Char) :
    (splitChars p cs).flatten = cs.filter fun c => !p c := by
  induction cs with
  | nil => rfl
  | cons c cs ih =>
    rw [splitChars]
    split
    next hnil => exact absurd hnil (splitChars_ne_nil p cs)
    next w ws hpieces =>
      rw [hpieces] at ih
      by_cases hc : p c = true
      · rw [if_pos hc, List.flatten_cons, List.nil_append, ih,
          List.filter_cons_of_neg (by simp [hc])]
      · rw [if_neg hc, List.filter_cons_of_pos (by simp [hc]), ← ih]
        rfl

end Text

namespace Php

/-! ## Identifiers -/

theorem nameChars_eq_nil {s : String} :
    nameChars s = [] ↔ ∀ c ∈ s.toList, isNameChar c = false := by
  rw [nameChars, List.filter_eq_nil_iff]
  simp only [Bool.not_eq_true]

theorem nameChars_append (s t : String) : nameChars (s ++ t) = nameChars s ++ nameChars t := by
  rw [nameChars, String.toList_append, List.filter_append]
  rfl

theorem nameChars_eq_self {s : String} (h : ∀ c ∈ s.toList, isNameChar c = true) :
    nameChars s = s.toList :=
  List.filter_eq_self.2 h

/-- No name is made from a text exactly if nothing in the text could stand in a name. -/
theorem identifier?_eq_none_iff {s : String} :
    identifier? s = none ↔ ∀ c ∈ s.toList, isNameChar c = false :=
  identifier?_eq_none.trans nameChars_eq_nil

theorem identifier?_eq_some {s name : String} :
    identifier? s = some name ↔ nameChars s ≠ [] ∧ name.toList = guardDigit (nameChars s) := by
  unfold identifier?
  split
  next hnil => simp [hnil]
  next hne =>
    rw [Option.some.injEq, ← String.toList_inj, String.toList_ofList, eq_comm]
    exact (and_iff_right hne).symm

theorem guardDigit_cases (cs : List Char) : guardDigit cs = cs ∨ guardDigit cs = '_' :: cs := by
  cases cs with
  | nil => exact .inl rfl
  | cons c cs =>
    rw [guardDigit]
    split
    next => exact .inr rfl
    next => exact .inl rfl

theorem isIdentifier_guardDigit {cs : List Char} (hne : cs ≠ [])
    (h : ∀ c ∈ cs, isNameChar c = true) : isIdentifier (guardDigit cs) = true := by
  cases cs with
  | nil => exact absurd rfl hne
  | cons c cs =>
    have hall : (c :: cs).all isNameChar = true := List.all_eq_true.2 h
    by_cases hc : c.isDigit = true
    · rw [guardDigit, if_pos hc, isIdentifier, List.all_cons, hall]
      rfl
    · rw [guardDigit, if_neg hc, isIdentifier, hall]
      simp [hc]

theorem guardDigit_of_isIdentifier {cs : List Char} (h : isIdentifier cs = true) :
    guardDigit cs = cs := by
  cases cs with
  | nil => rfl
  | cons c cs =>
    simp only [isIdentifier, Bool.and_eq_true, Bool.not_eq_true'] at h
    rw [guardDigit, h.1]
    rfl

theorem isIdentifier_of_identifier? {s name : String} (h : identifier? s = some name) :
    isIdentifier name.toList = true := by
  obtain ⟨hne, hname⟩ := identifier?_eq_some.1 h
  rw [hname]
  exact isIdentifier_guardDigit hne fun c hc => mem_nameChars hc

/-- The names from which they are made themselves are the identifiers. -/
theorem identifier?_eq_self_iff {name : String} :
    identifier? name = some name ↔ isIdentifier name.toList = true := by
  constructor
  · exact isIdentifier_of_identifier?
  · intro h
    have hchars := nameChars_eq_self (isNameChar_of_isIdentifier h)
    rw [identifier?_eq_some, hchars, guardDigit_of_isIdentifier h]
    refine ⟨?_, rfl⟩
    intro hnil
    rw [hnil] at h
    cases h

theorem nameOf_of_identifier? {s name : String} (h : identifier? s = some name) :
    NameOf (nameChars s) name := by
  have hidentifier := isIdentifier_of_identifier? h
  refine ⟨hidentifier, ?_, identifier?_eq_self_iff.2 hidentifier⟩
  rw [(identifier?_eq_some.1 h).2]
  exact guardDigit_cases (nameChars s)

/-! ## Names of classes -/

theorem isNameChar_of_isAlphanum {c : Char} (h : c.isAlphanum = true) : isNameChar c = true := by
  simp [isNameChar, h]

/-- The words of a name have its letters and digits. -/
theorem flatten_words (s : String) :
    (Text.splitChars (fun c => !c.isAlphanum) s.toList).flatten =
      s.toList.filter Char.isAlphanum := by
  rw [Text.flatten_splitChars]
  simp only [Bool.not_not]

theorem capitalize_of_isAlphanum {word : List Char} (h : ∀ c ∈ word, c.isAlphanum = true) :
    (∀ c ∈ capitalize word, c.isAlphanum = true) ∧
      (capitalize word).map Char.toLower = word.map Char.toLower := by
  cases word with
  | nil => simp [capitalize]
  | cons c cs =>
    obtain ⟨hc, hcs⟩ := List.forall_mem_cons.1 h
    obtain ⟨hupper, hlower⟩ := Text.toUpper_of_isAlphanum hc
    refine ⟨List.forall_mem_cons.2 ⟨hupper, hcs⟩, ?_⟩
    rw [capitalize, List.map_cons, List.map_cons, hlower]

theorem flatMap_capitalize (words : List (List Char))
    (h : ∀ c ∈ words.flatten, c.isAlphanum = true) :
    (∀ c ∈ words.flatMap capitalize, c.isAlphanum = true) ∧
      (words.flatMap capitalize).map Char.toLower = words.flatten.map Char.toLower := by
  induction words with
  | nil => simp
  | cons word words ih =>
    rw [List.flatten_cons, List.forall_mem_append] at h
    obtain ⟨hchars, hlower⟩ := capitalize_of_isAlphanum h.1
    obtain ⟨hrest, hlowerRest⟩ := ih h.2
    rw [List.flatMap_cons, List.flatten_cons]
    refine ⟨List.forall_mem_append.2 ⟨hchars, hrest⟩, ?_⟩
    rw [List.map_append, List.map_append, hlower, hlowerRest]

/-- The words joined are the letters and digits of the name, in order and but for their case. -/
theorem pascalCase_spec (s : String) :
    (∀ c ∈ (pascalCase s).toList, c.isAlphanum = true) ∧
      (pascalCase s).toList.map Char.toLower =
        (s.toList.filter Char.isAlphanum).map Char.toLower := by
  have hwords := flatten_words s
  have hcapitalize := flatMap_capitalize (Text.splitChars (fun c => !c.isAlphanum) s.toList) (by
    intro c hc
    rw [hwords] at hc
    exact (List.mem_filter.1 hc).2)
  rw [hwords] at hcapitalize
  rw [pascalCase, String.toList_ofList]
  exact hcapitalize

theorem pascalCase_eq_nil {s : String} :
    (pascalCase s).toList = [] ↔ ∀ c ∈ s.toList, c.isAlphanum = false := by
  have hlower := (pascalCase_spec s).2
  rw [← List.map_eq_nil_iff (f := Char.toLower), hlower, List.map_eq_nil_iff,
    List.filter_eq_nil_iff]
  simp only [Bool.not_eq_true]

theorem nameChars_className (project suffix : String) :
    nameChars (pascalCase project ++ suffix) =
      (pascalCase project).toList ++ nameChars suffix := by
  have hchars : ∀ c ∈ (pascalCase project).toList, isNameChar c = true :=
    fun c hc => isNameChar_of_isAlphanum ((pascalCase_spec project).1 c hc)
  rw [nameChars_append, nameChars_eq_self hchars]

/-- A class has no name exactly if the project gives no letter or digit to it, and the suffix
nothing that could stand in a name. -/
theorem className?_eq_none_iff {project suffix : String} :
    className? project suffix = none ↔
      (∀ c ∈ project.toList, c.isAlphanum = false) ∧
        ∀ c ∈ suffix.toList, isNameChar c = false := by
  rw [className?, identifier?_eq_none, nameChars_className, List.append_eq_nil_iff,
    pascalCase_eq_nil, nameChars_eq_nil]

theorem nameOf_of_className? {project suffix name : String}
    (h : className? project suffix = some name) :
    NameOf ((pascalCase project).toList ++ nameChars suffix) name := by
  have hname := nameOf_of_identifier? h
  rwa [nameChars_className] at hname

end Php

end CestExport
