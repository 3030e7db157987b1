import CestExport.Command.Draft
import CestExport.Keys
import CestExport.Locator

/-!
# Commands that act on elements

Clicking, moving the mouse, typing and choosing.  Elements that need more than
one call are held in a variable of the generated code, which is released
afterwards.
-/

namespace CestExport.Command

/-- The expression that finds the element of a locator. -/
def found (locator : String) : Except Failure String :=
  (Locator.resolve locator).map fun by_ => s!"$this->findElement($I, {by_})"

/-- The statement that runs an action on the browser. -/
def selenium (action : String) : String :=
  s!"$I->executeInSelenium(fn (RemoteWebDriver $webDriver) => {action});"

/-- Lines around the element of a locator. -/
def withElement (locator : String) (body : List (Int × String)) : Except Failure Draft :=
  (found locator).map fun element => .held "$element" element body

/-- Waits for an element and calls a method with it. -/
def clickWith (method : String) : Generator := fun _ step =>
  (Locator.resolve step.target).map fun by_ => .lines [
    (0, s!"$I->waitForElementClickable({by_});"),
    (0, s!"$I->{method}({by_});")]

/-- `click` -/
def click : Generator := clickWith "click"

/-- `doubleClick` -/
def doubleClick : Generator := clickWith "doubleClick"

/-- Performs an action on an element. -/
def pointer (action : String) : Generator := fun _ step =>
  withElement step.target [(0, selenium s!"$webDriver->action()->{action}($element)->perform()")]

/-- `mouseDown` -/
def mouseDown : Generator := pointer "clickAndHold"

/-- `mouseUp` -/
def mouseUp : Generator := pointer "release"

/-- `mouseMove` -/
def mouseMove : Generator := pointer "moveToElement"

/-- `mouseOut`: the pointer goes to the corner of the page. -/
def mouseOut : Generator := fun _ _ =>
  .ok (.held "$element" "$this->findElement($I, WebDriverBy::tagName('body'))"
    [(0, selenium "$webDriver->action()->moveToElement($element, 0, 0)->perform()")])

/-- Clicks a box if a condition on it holds when the test runs. -/
def clickIf (condition : String) : Generator := fun _ step =>
  (Locator.resolve step.target).map fun by_ =>
    .held "$element" s!"$this->findElement($I, {by_})" [
      (0, s!"$I->waitForElementClickable({by_});"),
      (0, s!"if ({condition}) \x7b"),
      (1, "$element->click();"),
      (0, "\x7d")]

/-- `check` -/
def check : Generator := clickIf "!$element->isSelected()"

/-- `uncheck` -/
def uncheck : Generator := clickIf "$element->isSelected()"

/-- `submit` -/
def submit : Generator := fun _ step =>
  (found step.target).map fun element => .statement s!"{element}->submit();"

/-- `sendKeys` -/
def sendKeys : Generator := fun _ step =>
  (Locator.resolve step.target).map fun by_ =>
    let keys := Keys.arguments (Keys.split step.value)
    .statement s!"$I->pressKey({by_}, {keys});"

/-- `type` -/
def typeText : Generator := fun _ step =>
  (Locator.resolve step.target).map fun by_ =>
    let value := Php.text step.value
    .statement s!"$I->fillField({by_}, {value});"

/-- The script that replaces the content of an editable element. -/
def editScript : String :=
  "if (arguments[0].contentEditable === 'true') \x7b arguments[0].innerText = arguments[1]; \x7d"

/-- `editContent` -/
def editContent : Generator := fun _ step =>
  let script := Php.quote editScript
  let value := Php.text step.value
  withElement step.target [(0, s!"$I->executeJS({script}, [$element, {value}]);")]

/-- `select`: clicks a choice of a list. -/
def select : Generator := fun _ step => do
  let choice ← Choice.resolve step.value
  let element ← found step.target
  .ok (.held "$dropdown" element [(0, s!"$dropdown->findElement({choice})->click();")])

/-- `dragAndDropToObject` -/
def dragAndDrop : Generator := fun _ step => do
  let dragged ← Locator.resolve step.target
  let dropped ← Locator.resolve step.value
  .ok (.statement s!"$I->dragAndDrop({dragged}, {dropped});")

end CestExport.Command
