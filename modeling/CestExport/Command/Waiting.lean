import CestExport.Command.Assertion
import CestExport.Timeout

/-!
# Commands that wait, answer dialogs or speak

The time to wait for an element is the step's value, or the one of the settings.
-/

namespace CestExport.Command

/-- The locator of a step, and the time to wait for it. -/
def locatorAndTimeout (settings : Settings) (step : Step) : Except Failure (String × String) := do
  let by_ ← Locator.resolve step.target
  let seconds ← (Duration.text step.value).seconds settings.waitTimeout
  .ok (by_, seconds)

/-- Waits with a method of the tester. -/
def waitWith (method : String) : Generator := fun settings step =>
  (locatorAndTimeout settings step).map fun (by_, seconds) =>
    .statement s!"$I->{method}({by_}, {seconds});"

/-- Waits until a condition on the browser fails. -/
def waitUntilNot (condition : String) : Generator := fun settings step =>
  (locatorAndTimeout settings step).map fun (by_, seconds) =>
    .statement (selenium (s!"$webDriver->wait({seconds})->until(" ++
      s!"WebDriverExpectedCondition::not(WebDriverExpectedCondition::{condition}({by_})))"))

/-- `waitForElementPresent` -/
def waitForElementPresent : Generator := waitWith "waitForElement"

/-- `waitForElementNotPresent` -/
def waitForElementNotPresent : Generator := waitUntilNot "presenceOfElementLocated"

/-- `waitForElementVisible` -/
def waitForElementVisible : Generator := waitWith "waitForElementVisible"

/-- `waitForElementNotVisible` -/
def waitForElementNotVisible : Generator := waitWith "waitForElementNotVisible"

/-- `waitForElementEditable` -/
def waitForElementEditable : Generator := waitWith "waitForElementClickable"

/-- `waitForElementNotEditable` -/
def waitForElementNotEditable : Generator := waitUntilNot "elementToBeClickable"

/-- `waitForText` -/
def waitForText : Generator := fun settings step => do
  let by_ ← Locator.resolve step.target
  let expected := Php.text step.value
  let seconds ← (Number.showWhole settings.waitForTextTimeout).mapError .whole
  .ok (.statement s!"$I->waitForText({expected}, {seconds}, {by_});")

/-- `webdriverAnswerOnVisiblePrompt` -/
def answerPrompt : Generator := fun _ step =>
  let answer := Php.text step.target
  .ok (.held "$alert" alert [(0, s!"$alert->sendKeys({answer});"), (0, "$alert->accept();")])

/-- `webdriverChooseCancelOnVisibleConfirmation` -/
def cancelDialog : Generator := fun _ _ => .ok (.statement "$I->cancelPopup();")

/-- `webdriverChooseOkOnVisibleConfirmation` -/
def acceptDialog : Generator := fun _ _ => .ok (.statement "$I->acceptPopup();")

/-- `echo` -/
def echo : Generator := fun _ step =>
  let message := Php.text step.target
  .ok (.statement s!"$I->comment({message});")

/-- `pause` -/
def pause : Generator := fun _ step =>
  ((Duration.text step.target).seconds 0).map fun seconds => .statement s!"$I->wait({seconds});"

/-- Commands that only matter while recording. -/
def skip : Generator := fun _ _ => .ok (.ready .nothing)

end CestExport.Command
