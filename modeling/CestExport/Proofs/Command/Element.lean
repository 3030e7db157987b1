import CestExport.Command.Element
import CestExport.Proofs.Command.Role
import CestExport.Proofs.Keys

/-!
# Commands that act on elements leave blocks alone

    (found l) = .ok e  →  Phrase e                                          (phrase_found)
    the lines around an element nest if the lines inside do              (fits_withElement)
-/

namespace CestExport.Command

open Php

/-! ## Expressions -/

theorem phrase_element : Phrase "$element" := ⟨rfl, by decide, rfl⟩

theorem phrase_findElement {by_ : String} (h : Closed 0 by_) :
    Phrase s!"$this->findElement($I, {by_})" :=
  phrase_template "$this->findElement($I, " [by_] [")"] (by decide) rfl rfl (by simp [h])

theorem phrase_found {locator element : String} (h : found locator = .ok element) :
    Phrase element := by
  obtain ⟨by_, hby, rfl⟩ := map_eq_ok.1 h
  exact phrase_findElement (closed_resolve hby)

theorem phrase_waitClickable {by_ : String} (h : Closed 0 by_) :
    Phrase s!"$I->waitForElementClickable({by_});" :=
  phrase_template "$I->waitForElementClickable(" [by_] [");"] (by decide) rfl rfl (by simp [h])

theorem phrase_selenium {action : String} (h : Closed 0 action) : Phrase (selenium action) :=
  phrase_template "$I->executeInSelenium(fn (RemoteWebDriver $webDriver) => " [action] [");"]
    (by decide) rfl rfl (by simp [h])

theorem fits_withElement {locator : String} {body : List (Int × String)} {d : Draft}
    (h : withElement locator body = .ok d) (hbody : Nests 0 (body.map fun l => ⟨l.1, l.2⟩) 0) :
    d.Fits .plain := by
  obtain ⟨element, hfound, rfl⟩ := map_eq_ok.1 h
  exact Draft.fits_held phrase_element (phrase_found hfound).closed hbody

/-! ## Commands -/

theorem fits_clickWith (method : String) (hmethod : Closed 0 method) :
    (clickWith method).Fits .plain := by
  intro settings step d h
  obtain ⟨by_, hby, rfl⟩ := map_eq_ok.1 h
  have hwait := phrase_waitClickable (closed_resolve hby)
  have hclick : Phrase s!"$I->{method}({by_});" :=
    phrase_template "$I->" [method, by_] ["(", ");"] (by decide) rfl rfl
      (by simp [hmethod, closed_resolve hby])
  exact Draft.fits_lines (.phrase hwait (.phrase hclick (.nil 0)))

theorem fits_click : click.Fits .plain := fits_clickWith "click" rfl

theorem fits_doubleClick : doubleClick.Fits .plain := fits_clickWith "doubleClick" rfl

theorem fits_pointer (action : String) (haction : Closed 0 action) :
    (pointer action).Fits .plain := by
  intro settings step d h
  have hperform : Closed 0 s!"$webDriver->action()->{action}($element)->perform()" :=
    closed_template "$webDriver->action()->" [action] ["($element)->perform()"] rfl rfl
      (by simp [haction])
  exact fits_withElement h (.phrase (phrase_selenium hperform) (.nil 0))

theorem fits_mouseDown : mouseDown.Fits .plain := fits_pointer "clickAndHold" rfl

theorem fits_mouseUp : mouseUp.Fits .plain := fits_pointer "release" rfl

theorem fits_mouseMove : mouseMove.Fits .plain := fits_pointer "moveToElement" rfl

theorem fits_mouseOut : mouseOut.Fits .plain := by
  intro settings step d h
  cases h
  exact Draft.fits_held phrase_element rfl (.phrase (phrase_selenium rfl) (.nil 0))

/-- The click inside the condition nests one level deeper. -/
theorem fits_clickIf (condition : String) (hcondition : Closed 0 condition) :
    (clickIf condition).Fits .plain := by
  intro settings step d h
  obtain ⟨by_, hby, rfl⟩ := map_eq_ok.1 h
  have hfind := (phrase_findElement (closed_resolve hby)).closed
  have hwait := phrase_waitClickable (closed_resolve hby)
  have hclick : Phrase "$element->click();" := ⟨rfl, by decide, rfl⟩
  refine Draft.fits_held phrase_element hfind ?_
  refine .phrase hwait ?_
  refine .line "if (" [condition] [") \x7b"] (by decide) rfl rfl (by simp [hcondition]) ?_
  exact .phrase hclick (.line "\x7d" [] [] (by decide) rfl rfl (by simp) (.nil 0))

theorem fits_check : check.Fits .plain := fits_clickIf "!$element->isSelected()" rfl

theorem fits_uncheck : uncheck.Fits .plain := fits_clickIf "$element->isSelected()" rfl

theorem fits_submit : submit.Fits .plain := by
  intro settings step d h
  obtain ⟨element, hfound, rfl⟩ := map_eq_ok.1 h
  exact Draft.fits_statement ((phrase_found hfound).append rfl)

/-- The names of keys are pasted as they are, so that key input is not always closed. -/
theorem fits_sendKeys_of_closed {settings : Settings} {step : Step} {d : Draft}
    (hkeys : Closed 0 (Keys.arguments (Keys.split step.value)))
    (h : sendKeys settings step = .ok d) : d.Fits .plain := by
  obtain ⟨by_, hby, rfl⟩ := map_eq_ok.1 h
  exact Draft.fits_statement (phrase_template "$I->pressKey("
    [by_, Keys.arguments (Keys.split step.value)] [", ", ");"] (by decide) rfl rfl
    (by simp [closed_resolve hby, hkeys]))

/-- Key input without keys is closed. -/
theorem fits_sendKeys {settings : Settings} {step : Step} {d : Draft}
    (hkeys : ∀ k, .key k ∉ Keys.split step.value) (h : sendKeys settings step = .ok d) :
    d.Fits .plain :=
  fits_sendKeys_of_closed (Keys.closed_arguments fun k hk => absurd hk (hkeys k)) h

theorem shifts_sendKeys {settings : Settings} {step : Step} {d : Draft}
    (h : sendKeys settings step = .ok d) (c : Context) :
    (d.settle c).1.toBlock.Shifts .plain := by
  obtain ⟨by_, _, rfl⟩ := map_eq_ok.1 h
  exact ⟨rfl, rfl⟩

theorem fits_typeText : typeText.Fits .plain := by
  intro settings step d h
  obtain ⟨by_, hby, rfl⟩ := map_eq_ok.1 h
  exact Draft.fits_statement (phrase_template "$I->fillField(" [by_, text step.value] [", ", ");"]
    (by decide) rfl rfl (by simp [closed_resolve hby, closed_text]))

theorem fits_editContent : editContent.Fits .plain := by
  intro settings step d h
  have hedit : Phrase s!"$I->executeJS({quote editScript}, [$element, {text step.value}]);" :=
    phrase_template "$I->executeJS(" [quote editScript, text step.value] [", [$element, ", "]);"]
      (by decide) rfl rfl (by simp [closed_quote, closed_text])
  exact fits_withElement h (.phrase hedit (.nil 0))

theorem fits_select : select.Fits .plain := by
  intro settings step d h
  obtain ⟨choice, hchoice, h⟩ := bind_eq_ok.1 h
  obtain ⟨element, hfound, h⟩ := bind_eq_ok.1 h
  cases h
  have hclick : Phrase s!"$dropdown->findElement({choice})->click();" :=
    phrase_template "$dropdown->findElement(" [choice] [")->click();"] (by decide) rfl rfl
      (by simp [closed_choice hchoice])
  exact Draft.fits_held ⟨rfl, by decide, rfl⟩ (phrase_found hfound).closed
    (.phrase hclick (.nil 0))

theorem fits_dragAndDrop : dragAndDrop.Fits .plain := by
  intro settings step d h
  obtain ⟨dragged, hdragged, h⟩ := bind_eq_ok.1 h
  obtain ⟨dropped, hdropped, h⟩ := bind_eq_ok.1 h
  cases h
  exact Draft.fits_statement (phrase_template "$I->dragAndDrop(" [dragged, dropped] [", ", ");"]
    (by decide) rfl rfl (by simp [closed_resolve hdragged, closed_resolve hdropped]))

end CestExport.Command
