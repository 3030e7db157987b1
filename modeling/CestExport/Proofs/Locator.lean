import CestExport.Export.Test
import CestExport.Proofs.Php.Concatenation
import CestExport.Proofs.Success

/-!
# References in locators

The value of a locator is pasted as one literal.  So the expression for a locator
evaluates to the value as it was recorded, and has the values of variables in place
of the references only if there is no reference.

    resolve l = .ok e  ↔  e calls the method of the strategy with the value   (resolve_eq_ok)
    the argument is the value with its references replaced, for all values of variables
      ↔  the value holds no reference                            (substitutes_resolve_iff)
-/

namespace CestExport

open Php

/-! ## Algorithm -/

/-- A locator, the method that its strategy stands for, and its value: a bare XPath is its own
value, that of any other locator is all that follows the first `=`. -/
inductive Locator.Names (l : String) : String → String → Prop
  | path : Text.beginsWith "//" l = true → Names l "xpath" l
  | strategy {strategy method value : String} : Text.beginsWith "//" l = false →
    l = strategy ++ "=" ++ value → '=' ∉ strategy.toList →
    Locator.methods.lookup strategy = some method → Names l method value

/-! ## Locators -/

theorem Text.cutFirst_eq_some {c : Char} {s a b : String} :
    cutFirst c s = some (a, b) ↔ s.toList = a.toList ++ c :: b.toList ∧ c ∉ a.toList := by
  unfold cutFirst
  rw [Option.map_eq_some_iff]
  constructor
  · rintro ⟨⟨front, back⟩, hcut, h⟩
    obtain ⟨hs, hmem⟩ := cutFirstChars_eq hcut
    obtain ⟨rfl, rfl⟩ := Prod.mk.inj h
    rw [String.toList_ofList, String.toList_ofList]
    exact ⟨hs, hmem⟩
  · rintro ⟨hs, hmem⟩
    refine ⟨(a.toList, b.toList), ?_, ?_⟩
    · rw [hs]
      exact Template.cutFirstChars_append hmem b.toList
    · rw [String.ofList_toList, String.ofList_toList]

/-- What a locator has to be for its expression to be made. -/
theorem Locator.resolve_eq_ok {l e : String} : Locator.resolve l = .ok e ↔
    ∃ method value, Locator.Names l method value ∧ e = Locator.by method value := by
  have hcut : ∀ {strategy value : String}, Text.cutFirst '=' l = some (strategy, value) ↔
      l = strategy ++ "=" ++ value ∧ '=' ∉ strategy.toList := by
    intro strategy value
    rw [Text.cutFirst_eq_some, ← String.toList_inj]
    simp
  unfold Locator.resolve
  constructor
  · intro h
    split at h
    next => cases h
    next =>
      split at h
      next hpath =>
        cases h
        exact ⟨"xpath", l, .path hpath, rfl⟩
      next hpath =>
        split at h
        next => cases h
        next strategy value hl =>
          split at h
          next => cases h
          next method hmethod =>
            cases h
            obtain ⟨hl, hmem⟩ := hcut.1 hl
            exact ⟨method, value, .strategy (by simpa using hpath) hl hmem hmethod, rfl⟩
  · rintro ⟨method, value, hnames, rfl⟩
    have hne : l ≠ "" := by
      rintro rfl
      cases hnames with
      | path h => cases h
      | strategy _ hl _ _ => simpa using congrArg String.toList hl
    rw [if_neg hne]
    cases hnames with
    | path h => rw [if_pos h]
    | strategy h hl hmem hmethod =>
      rw [if_neg (by simp [h]), hcut.2 ⟨hl, hmem⟩]
      simp only [hmethod]

/-! ## Literals -/

/-- A literal is a concatenation by itself. -/
theorem Php.concatenation_quote (s : String) :
    Concatenation (quote s).toList [.literal (escape s.toList)] := by
  refine ⟨by simp, ?_, ?_⟩
  · intro o ho
    obtain rfl := List.mem_singleton.1 ho
    exact ⟨s.toList, decode?_escape s.toList⟩
  · simp [quote, quoteChars, separated, Operand.write]

theorem Php.evaluate_quote (env : String → String) (s : String) :
    evaluate env [.literal (escape s.toList)] = some s.toList := by
  simp [evaluate, Operand.value?, decode?_escape]

/-! ## References -/

/-- The expression for a locator calls the method of its strategy with one argument.  That argument
can be read in one way only and evaluates to the value of the locator as it was recorded; so it
has the values of variables in place of the references, whatever these values are, if and only if
the locator's value refers to no variable. -/
theorem Locator.substitutes_resolve_iff {l e : String} (h : Locator.resolve l = .ok e) :
    ∃ method value argument os, Locator.Names l method value ∧
      e = "WebDriverBy::" ++ method ++ "(" ++ argument ++ ")" ∧
      Concatenation argument.toList os ∧
      (∀ os', Concatenation argument.toList os' → os' = os) ∧
      (∀ env, evaluate env os = some value.toList) ∧
      ((∀ env out, Template.Substituted env value.toList out → evaluate env os = some out) ↔
        Template.references (Template.pieces value) = []) := by
  obtain ⟨method, value, hnames, rfl⟩ := Locator.resolve_eq_ok.1 h
  refine ⟨method, value, quote value, _, hnames, rfl, concatenation_quote value,
    fun os' hos' => hos'.unique (concatenation_quote value),
    fun env => evaluate_quote env value, ?_⟩
  rw [Template.pieces, ← Template.substitute_eq_self_iff]
  constructor
  · intro hsubstitutes env
    have hvalue := hsubstitutes env _ (Template.substituted_substitute env value.toList)
    rw [evaluate_quote] at hvalue
    exact (Option.some.inj hvalue).symm
  · intro hself env out hout
    rw [evaluate_quote, Template.substituted_iff.1 hout, hself env]

theorem Locator.substitutes_resolve_iff_rowPath :
    let l := "//tr[@id='$\x7brow\x7d']"
    let e := "WebDriverBy::xpath('//tr[@id=\\'$\x7brow\x7d\\']')"
    Locator.resolve l = .ok e ∧ ∃ argument os, e = "WebDriverBy::xpath(" ++ argument ++ ")" ∧
      Concatenation argument.toList os ∧ (∀ env, evaluate env os = some l.toList) ∧
      ¬∀ env out, Template.Substituted env l.toList out → evaluate env os = some out := by
  intro l e
  have hresolve : Locator.resolve l = .ok e := toOption_eq_some.1 (by decide +kernel)
  obtain ⟨method, value, argument, os, hnames, he, hread, _, hvalue, hiff⟩ :=
    Locator.substitutes_resolve_iff hresolve
  cases hnames with
  | path =>
    refine ⟨hresolve, argument, os, he, hread, hvalue, fun hsubstitutes => ?_⟩
    exact absurd (hiff.1 hsubstitutes) (by decide +kernel)
  | strategy hpath => exact absurd hpath (by decide)

/-- A row that is chosen by a variable: the locator looks for the reference itself, also where a
command uses it. -/
theorem Locator.not_substituted_chosenRow :
    let step : Step := { name := "click", target := "css=#$\x7brow\x7d" }
    let env : String → String := fun _ => "total"
    Locator.resolve step.target = .ok "WebDriverBy::cssSelector('#$\x7brow\x7d')" ∧
      (Registry.default.emit (Export.start Config.default none) step).1 = .ok (.block ⟨[
        ⟨0, "$I->waitForElementClickable(WebDriverBy::cssSelector('#$\x7brow\x7d'));"⟩,
        ⟨0, "$I->click(WebDriverBy::cssSelector('#$\x7brow\x7d'));"⟩], 0, 0⟩) ∧
      Concatenation "'#$\x7brow\x7d'".toList [.literal "#$\x7brow\x7d".toList] ∧
      Template.Substituted env "#$\x7brow\x7d".toList "#total".toList ∧
      evaluate env [.literal "#$\x7brow\x7d".toList] ≠ some "#total".toList := by
  intro step env
  refine ⟨toOption_eq_some.1 (by decide +kernel), toOption_eq_some.1 (by decide +kernel),
    concatenation_quote "#$\x7brow\x7d", ?_, by decide⟩
  rw [Template.substituted_iff]
  decide +kernel

end CestExport
