import CestExport.Command.Waiting
import CestExport.Proofs.Command.Element

/-!
# Commands that wait, answer dialogs or speak leave blocks alone

The time to wait is pasted as a number, whatever the recording or the settings say.
The commands that wait for an element are one, with their statements for parameters.
-/

namespace CestExport

/-! ## Algorithm -/

namespace Wait

/-- Waits with a method of the tester. -/
def calling (method element time : String) : String :=
  s!"$I->{method}({element}, {time});"

/-- Waits until a condition on the browser fails. -/
def untilNot (condition element time : String) : String :=
  Command.selenium (s!"$webDriver->wait({time})->until(" ++
    s!"WebDriverExpectedCondition::not(WebDriverExpectedCondition::{condition}({element})))")

/-- Waits for an element, with a statement around the element and the time. -/
def generator (statement : String → String → String) : Generator := fun settings step =>
  (Command.locatorAndTimeout settings step).map fun (element, time) =>
    .statement (statement element time)

/-- The commands that wait for an element, and their statements around the element and the time. -/
def forElement : List (String × (String → String → String)) := [
  ("waitForElementPresent", calling "waitForElement"),
  ("waitForElementNotPresent", untilNot "presenceOfElementLocated"),
  ("waitForElementVisible", calling "waitForElementVisible"),
  ("waitForElementNotVisible", calling "waitForElementNotVisible"),
  ("waitForElementEditable", calling "waitForElementClickable"),
  ("waitForElementNotEditable", untilNot "elementToBeClickable")]

end Wait

/-! ## Lemmas -/

namespace Command

open Php

theorem closed_locatorAndTimeout {settings : Settings} {step : Step} {p : String × String}
    (h : locatorAndTimeout settings step = .ok p) : Closed 0 p.1 ∧ Closed 0 p.2 := by
  obtain ⟨by_, hby, h⟩ := bind_eq_ok.1 h
  obtain ⟨seconds, hseconds, h⟩ := bind_eq_ok.1 h
  cases h
  exact ⟨closed_resolve hby, closed_seconds hseconds⟩

theorem fits_waitWith (method : String) (hmethod : Closed 0 method) :
    (waitWith method).Fits .plain := by
  intro settings step d h
  obtain ⟨⟨by_, seconds⟩, hp, rfl⟩ := map_eq_ok.1 h
  obtain ⟨hby, hseconds⟩ := closed_locatorAndTimeout hp
  exact Draft.fits_statement (phrase_template "$I->" [method, by_, seconds] ["(", ", ", ");"]
    (by decide) rfl rfl (by simp_all))

theorem fits_waitUntilNot (condition : String) (hcondition : Closed 0 condition) :
    (waitUntilNot condition).Fits .plain := by
  intro settings step d h
  obtain ⟨⟨by_, seconds⟩, hp, rfl⟩ := map_eq_ok.1 h
  obtain ⟨hby, hseconds⟩ := closed_locatorAndTimeout hp
  -- the bracket opened before the two texts meet is closed behind them
  have hmeet : s!"$webDriver->wait({seconds})->until(" ++
      s!"WebDriverExpectedCondition::not(WebDriverExpectedCondition::{condition}({by_})))" =
      template "$webDriver->wait(" [seconds, condition, by_] [")->until(" ++
        "WebDriverExpectedCondition::not(WebDriverExpectedCondition::", "(", ")))"] := by
    simp only [template, String.append_assoc, ToString.toString]
  refine Draft.fits_statement (phrase_selenium ?_)
  rw [hmeet]
  exact closed_template _ _ _ rfl rfl (by simp_all)

theorem fits_waitForElementPresent : waitForElementPresent.Fits .plain :=
  fits_waitWith "waitForElement" rfl

theorem fits_waitForElementNotPresent : waitForElementNotPresent.Fits .plain :=
  fits_waitUntilNot "presenceOfElementLocated" rfl

theorem fits_waitForElementVisible : waitForElementVisible.Fits .plain :=
  fits_waitWith "waitForElementVisible" rfl

theorem fits_waitForElementNotVisible : waitForElementNotVisible.Fits .plain :=
  fits_waitWith "waitForElementNotVisible" rfl

theorem fits_waitForElementEditable : waitForElementEditable.Fits .plain :=
  fits_waitWith "waitForElementClickable" rfl

theorem fits_waitForElementNotEditable : waitForElementNotEditable.Fits .plain :=
  fits_waitUntilNot "elementToBeClickable" rfl

theorem fits_waitForText : waitForText.Fits .plain := by
  intro settings step d h
  obtain ⟨by_, hby, h⟩ := bind_eq_ok.1 h
  obtain ⟨seconds, hseconds, h⟩ := bind_eq_ok.1 h
  cases h
  exact Draft.fits_statement (phrase_template "$I->waitForText(" [text step.value, seconds, by_]
    [", ", ", ", ");"] (by decide) rfl rfl
    (by simp [closed_text, closed_resolve hby, closed_showWhole (mapError_eq_ok.1 hseconds)]))

theorem fits_answerPrompt : answerPrompt.Fits .plain := by
  intro settings step d h
  cases h
  have hanswer : Phrase s!"$alert->sendKeys({text step.target});" :=
    phrase_template "$alert->sendKeys(" [text step.target] [");"] (by decide) rfl rfl
      (by simp [closed_text])
  have haccept : Phrase "$alert->accept();" := ⟨rfl, by decide, rfl⟩
  exact Draft.fits_held ⟨rfl, by decide, rfl⟩ rfl (.phrase hanswer (.phrase haccept (.nil 0)))

theorem fits_cancelDialog : cancelDialog.Fits .plain := by
  intro settings step d h
  cases h
  exact Draft.fits_statement ⟨rfl, by decide, rfl⟩

theorem fits_acceptDialog : acceptDialog.Fits .plain := by
  intro settings step d h
  cases h
  exact Draft.fits_statement ⟨rfl, by decide, rfl⟩

theorem fits_echo : echo.Fits .plain := by
  intro settings step d h
  cases h
  exact Draft.fits_statement (phrase_template "$I->comment(" [text step.target] [");"]
    (by decide) rfl rfl (by simp [closed_text]))

theorem fits_pause : pause.Fits .plain := by
  intro settings step d h
  obtain ⟨seconds, hseconds, rfl⟩ := map_eq_ok.1 h
  exact Draft.fits_statement (phrase_template "$I->wait(" [seconds] [");"] (by decide) rfl rfl
    (by simp [closed_seconds hseconds]))

theorem fits_skip : skip.Fits .plain := by
  intro settings step d h
  cases h
  exact Draft.fits_nothing

end Command

end CestExport
