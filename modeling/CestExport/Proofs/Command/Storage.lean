import CestExport.Command.Storage
import CestExport.Proofs.Command.Element

/-!
# Commands that run scripts or store values leave blocks alone

    expression closed whenever it is found  →  (storeIn name expression) fits      (fits_storeIn)
-/

namespace CestExport.Command

open Php

/-! ## Scripts -/

theorem fits_scriptResult (step : Step) {call : String} (h : Phrase call) :
    (scriptResult step call).Fits .plain := by
  unfold scriptResult
  split
  next => exact Draft.fits_statement (h.append rfl)
  next => exact Draft.fits_assign step.value h.closed

theorem fits_executeScript : executeScript.Fits .plain := by
  intro settings step d h
  cases h
  exact fits_scriptResult step (phrase_call "executeJS" rfl step.scriptOrTarget _)

theorem fits_executeAsyncScript : executeAsyncScript.Fits .plain := by
  intro settings step d h
  cases h
  exact fits_scriptResult step (phrase_call "executeAsyncJS" rfl step.scriptOrTarget _)

theorem fits_runScript : runScript.Fits .plain := by
  intro settings step d h
  cases h
  exact Draft.fits_statement ((phrase_call "executeJS" rfl step.scriptOrTarget _).append rfl)

theorem fits_run : run.Fits .plain := by
  intro settings step d h
  unfold run at h
  split at h
  next method hmethod =>
    cases h
    exact Draft.fits_statement (phrase_template "$this->" [method] ["($I);"] (by decide) rfl rfl
      (by simp [closed_identifier? hmethod]))
  next => cases h

/-! ## Values -/

theorem fits_store : store.Fits .plain := by
  intro settings step d h
  cases h
  exact Draft.fits_assign step.value (closed_text step.target)

theorem fits_storeIn {name : String} {expression : Except Failure String} {d : Draft}
    (hexpr : ∀ {e}, expression = .ok e → Closed 0 e) (h : storeIn name expression = .ok d) :
    d.Fits .plain := by
  unfold storeIn at h
  split at h
  next =>
    cases h
    exact Draft.fits_nothing
  next =>
    obtain ⟨e, he, rfl⟩ := map_eq_ok.1 h
    exact Draft.fits_assign name (hexpr he)

/-- A call on an element stays closed. -/
theorem closed_foundCall {locator e : String} (call : String) (hcall : Closed 0 call)
    (h : (found locator).map (· ++ call) = .ok e) : Closed 0 e := by
  obtain ⟨element, hfound, rfl⟩ := map_eq_ok.1 h
  exact (phrase_found hfound).closed.append hcall

theorem fits_storeText : storeText.Fits .plain := by
  intro settings step d h
  exact fits_storeIn (closed_foundCall "->getText()" rfl) h

theorem fits_storeValue : storeValue.Fits .plain := by
  intro settings step d h
  exact fits_storeIn (closed_foundCall "->getAttribute('value')" rfl) h

theorem fits_storeAttribute : storeAttribute.Fits .plain := by
  intro settings step d h
  refine fits_storeIn ?_ h
  intro e he
  obtain ⟨⟨locator, key⟩, _, he⟩ := bind_eq_ok.1 he
  obtain ⟨element, hfound, he⟩ := bind_eq_ok.1 he
  cases he
  exact ((phrase_found hfound).template "->getAttribute(" [quote key] [")"] rfl rfl
    (by simp [closed_quote])).closed

theorem fits_storeTitle : storeTitle.Fits .plain := by
  intro settings step d h
  cases h
  exact Draft.fits_assign step.value rfl

theorem fits_storeJson : storeJson.Fits .plain := by
  intro settings step d h
  cases h
  exact Draft.fits_assign step.value
    (closed_template "json_decode(" [quote step.target] [", true)"] rfl rfl
      (by simp [closed_quote]))

theorem fits_storeWindowHandle : storeWindowHandle.Fits .plain := by
  intro settings step d h
  cases h
  exact Draft.fits_assign step.target rfl

theorem fits_storeXpathCount : storeXpathCount.Fits .plain := by
  intro settings step d h
  refine fits_storeIn ?_ h
  intro e he
  obtain ⟨by_, hby, rfl⟩ := map_eq_ok.1 he
  exact closed_template "count($this->findElements($I, " [by_] ["))"] rfl rfl
    (by simp [closed_resolve hby])

end CestExport.Command
