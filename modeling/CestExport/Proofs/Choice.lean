import CestExport.Proofs.Keys
import CestExport.Proofs.Locator
import CestExport.Proofs.XPath

/-!
# Locators and choices are read back

The expression for a locator is a call with a literal, and the literal is the value
that was recorded.  For a choice of a list it is an XPath, in which the value stands
once more as a string: two kinds of quoting, one inside the other, and none of them
loses a character.

    read? (by method value) = some (method, value)                              (read?_by)
    a locator is read back as its method and value, a choice as an XPath with
      an expression that denotes its value                            (read?_resolve)
-/

namespace CestExport

open Php

/-! ## Algorithm -/

/-- The method and the value of an expression that finds elements: one call, with one literal. -/
def Locator.read? (e : String) : Option (String × String) :=
  (Text.after? "WebDriverBy::" e).bind fun call =>
    (Text.cutFirst '(' call).bind fun (method, argument) =>
      match scan? argument.toList with
      | some (value, [')']) => some (method, String.ofList value)
      | _ => none

/-- The kinds of choices that give a text, and what the text is compared with. -/
inductive Choice.Tests : String → String → Prop
  | label : Tests "label" "."
  | value : Tests "value" "@value"
  | id : Tests "id" "@id"

/-! ## Locators -/

namespace Locator

theorem read?_by {method : String} (h : '(' ∉ method.toList) (value : String) :
    read? (Locator.by method value) = some (method, value) := by
  have hsource : Locator.by method value =
      "WebDriverBy::" ++ (method ++ "(" ++ (quote value ++ ")")) := by
    rw [← String.toList_inj]
    show ("WebDriverBy::" ++ method ++ "(" ++ quote value ++ ")").toList = _
    simp
  have hcall : Text.after? "WebDriverBy::" (Locator.by method value) =
      some (method ++ "(" ++ (quote value ++ ")")) :=
    Keys.after?_eq_some.2 hsource
  have hcut : Text.cutFirst '(' (method ++ "(" ++ (quote value ++ ")")) =
      some (method, quote value ++ ")") := by
    rw [Text.cutFirst_eq_some]
    exact ⟨by simp, h⟩
  have hargument : scan? (quote value ++ ")").toList = some (value.toList, [')']) := by
    rw [String.toList_append, quote, String.toList_ofList]
    exact scan?_quoteChars value.toList [')']
  rw [read?, hcall, Option.bind_some, hcut, Option.bind_some]
  simp only [hargument, String.ofList_toList]

/-- No strategy holds a `=` or is the beginning of an XPath, and no method a bracket. -/
theorem of_lookup_methods {strategy method : String}
    (h : methods.lookup strategy = some method) : '=' ∉ strategy.toList ∧
      '(' ∉ method.toList ∧ ∃ c cs, strategy.toList = c :: cs ∧ c ≠ '/' := by
  have hmethods : ∀ p ∈ methods, '=' ∉ p.1.toList ∧ '(' ∉ p.2.toList ∧
      (p.1.toList.head?.any (· != '/')) = true := by decide
  obtain ⟨front, back, hl, _⟩ := List.lookup_eq_some_iff.1 h
  obtain ⟨hstrategy, hmethod, hhead⟩ := hmethods (strategy, method) (by rw [hl]; simp)
  refine ⟨hstrategy, hmethod, ?_⟩
  cases hchars : strategy.toList with
  | nil => simp [hchars] at hhead
  | cons c cs => exact ⟨c, cs, rfl, by simpa [hchars] using hhead⟩

theorem resolve_path {l : String} (h : Text.beginsWith "//" l = true) :
    resolve l = .ok (Locator.by "xpath" l) :=
  resolve_eq_ok.2 ⟨"xpath", l, .path h, rfl⟩

theorem resolve_strategy {strategy method : String} (h : methods.lookup strategy = some method)
    (value : String) : resolve (strategy ++ "=" ++ value) = .ok (Locator.by method value) := by
  obtain ⟨hstrategy, _, c, cs, hchars, hslash⟩ := of_lookup_methods h
  have hpath : Text.beginsWith "//" (strategy ++ "=" ++ value) = false := by
    rw [Text.beginsWith, String.toList_append, String.toList_append, hchars]
    show ('/' == c && _) = false
    simp [Ne.symm hslash]
  exact resolve_eq_ok.2 ⟨method, value, .strategy hpath rfl hstrategy h, rfl⟩

end Locator

/-! ## Choices -/

namespace Choice

theorem split_of_kind {kind : String} (h : '=' ∉ kind.toList) (value : String) :
    split (kind ++ "=" ++ value) = (kind, value) := by
  have hcut : Text.cutFirst '=' (kind ++ "=" ++ value) = some (kind, value) := by
    rw [Text.cutFirst_eq_some]
    exact ⟨by simp, h⟩
  rw [split, hcut, Option.getD_some]

theorem split_of_bare {choice : String} (h : '=' ∉ choice.toList) :
    split choice = ("label", choice) := by
  have hcut : Text.cutFirst '=' choice = none := by
    rw [Text.cutFirst, Text.cutFirstChars_eq_none.2 h]
    rfl
  rw [split, hcut, Option.getD_none]

theorem path_of_tests {kind test choice value : String} (h : Tests kind test)
    (hsplit : split choice = (kind, value)) :
    path choice = .ok (".//option[" ++ test ++ " = " ++ XPath.literal value ++ "]") := by
  rw [path, hsplit]
  cases h with
  | label => rfl
  | value => rfl
  | id => rfl

theorem resolve_of_tests {kind test : String} (h : Tests kind test) (value : String) :
    resolve (kind ++ "=" ++ value) =
      .ok (Locator.by "xpath" (".//option[" ++ test ++ " = " ++ XPath.literal value ++ "]")) := by
  have hkind : '=' ∉ kind.toList := by
    cases h with
    | label => decide
    | value => decide
    | id => decide
  have hne : kind ++ "=" ++ value ≠ "" := by
    intro hempty
    simpa using congrArg String.toList hempty
  rw [resolve, if_neg hne, path_of_tests h (split_of_kind hkind value)]
  rfl

/-- A choice without a `=` is the label of the choice. -/
theorem resolve_of_bare {choice : String} (hne : choice ≠ "") (h : '=' ∉ choice.toList) :
    resolve choice = resolve ("label" ++ "=" ++ choice) := by
  rw [resolve_of_tests .label, resolve, if_neg hne, path_of_tests .label (split_of_bare h)]
  rfl

end Choice

/-! ## Reading back -/

/-- Nothing of what was recorded is lost.  The expression for a bare XPath is read back as that
XPath, and the one for any other locator as the method of its strategy with all that follows the
first `=`.  The expression for a choice by label, value or id is read back as an XPath that compares
with an expression `e`; and read as an expression, `e` ends in front of the bracket, wherever it may
stand, and denotes the text of the choice.  A choice without `=` is a choice by label. -/
theorem read?_resolve :
    (∀ l, Text.beginsWith "//" l = true →
      ∃ e, Locator.resolve l = .ok e ∧ Locator.read? e = some ("xpath", l)) ∧
    (∀ strategy method, Locator.methods.lookup strategy = some method → ∀ value : String,
      ∃ e, Locator.resolve (strategy ++ "=" ++ value) = .ok e ∧
        Locator.read? e = some (method, value)) ∧
    (∀ kind test, Choice.Tests kind test → ∀ value : String, ∃ e s : String,
      Choice.resolve (kind ++ "=" ++ value) = .ok e ∧
      Locator.read? e = some ("xpath", ".//option[" ++ test ++ " = " ++ s ++ "]") ∧
      ∀ rest, XPath.string? (s.toList ++ rest) = some (value.toList, rest)) ∧
    ∀ choice : String, choice ≠ "" → '=' ∉ choice.toList →
      Choice.resolve choice = Choice.resolve ("label" ++ "=" ++ choice) := by
  have hxpath : '(' ∉ "xpath".toList := by decide
  refine ⟨?_, ?_, ?_, fun choice => Choice.resolve_of_bare⟩
  · intro l hl
    exact ⟨_, Locator.resolve_path hl, Locator.read?_by hxpath l⟩
  · intro strategy method hmethod value
    exact ⟨_, Locator.resolve_strategy hmethod value,
      Locator.read?_by (Locator.of_lookup_methods hmethod).2.1 value⟩
  · intro kind test htest value
    exact ⟨_, XPath.literal value, Choice.resolve_of_tests htest value,
      Locator.read?_by hxpath _, XPath.string?_literal value⟩

end CestExport
