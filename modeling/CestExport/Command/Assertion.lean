import CestExport.Command.Element

/-!
# Commands that assert

An assertion compares a recorded text with what the page shows, or tests the
state of an element.
-/

namespace CestExport.Command

/-- The expression for the dialog that is open. -/
def alert : String :=
  "$I->executeInSelenium(fn (RemoteWebDriver $webDriver) => $webDriver->switchTo()->alert())"

/-- The expression for the title of the page. -/
def title : String :=
  "$I->executeInSelenium(fn (RemoteWebDriver $webDriver) => $webDriver->getTitle())"

/-- `assert`: the target names a variable. -/
def assertVariable : Generator := fun _ step =>
  let value := Php.text step.value
  let stored := Php.read step.target
  .ok (.statement s!"$I->assertEquals({value}, {stored});")

/-- `assertAlert` -/
def assertAlert : Generator := fun _ step =>
  let expected := Php.text step.target
  .ok (.statement s!"$I->assertEquals({expected}, {alert}->getText());")

/-- `assertChecked` -/
def assertChecked : Generator := fun _ step =>
  (found step.target).map fun element => .statement s!"$I->assertTrue({element}->isSelected());"

/-- `assertNotChecked` -/
def assertNotChecked : Generator := fun _ step =>
  (found step.target).map fun element => .statement s!"$I->assertFalse({element}->isSelected());"

/-- The condition that an element can be edited. -/
def isEditable : String :=
  "$element->isEnabled() && $element->getAttribute('readonly') === null"

/-- `assertEditable` -/
def assertEditable : Generator := fun _ step =>
  withElement step.target [(0, s!"$I->assertTrue({isEditable});")]

/-- `assertNotEditable` -/
def assertNotEditable : Generator := fun _ step =>
  withElement step.target [(0, s!"$I->assertFalse({isEditable});")]

/-- Asserts something about all elements of a locator. -/
def countElements (assertion : String) : Generator := fun _ step =>
  (Locator.resolve step.target).map fun by_ =>
    .held "$elements" s!"$this->findElements($I, {by_})" [(0, assertion)]

/-- `assertElementPresent` -/
def assertElementPresent : Generator :=
  countElements "$I->assertGreaterThan(0, count($elements));"

/-- `assertElementNotPresent` -/
def assertElementNotPresent : Generator :=
  countElements "$I->assertCount(0, $elements);"

/-- `assertText` -/
def assertText : Generator := fun _ step =>
  (found step.target).map fun element =>
    let value := Php.text step.value
    .statement s!"$I->assertEquals({value}, {element}->getText());"

/-- `assertNotText` -/
def assertNotText : Generator := fun _ step =>
  (found step.target).map fun element =>
    let value := Php.text step.value
    .held "$text" s!"{element}->getText()" [(0, s!"$I->assertNotEquals({value}, $text);")]

/-- Compares the value of an element. -/
def compareValue (method : String) : Generator := fun _ step =>
  (found step.target).map fun element =>
    let value := Php.text step.value
    .held "$value" s!"{element}->getAttribute('value')" [(0, s!"$I->{method}({value}, $value);")]

/-- `assertValue` -/
def assertValue : Generator := compareValue "assertEquals"

/-- `assertNotSelectedValue` -/
def assertNotSelectedValue : Generator := compareValue "assertNotEquals"

/-- `assertSelectedLabel` -/
def assertSelectedLabel : Generator := fun _ step =>
  (found step.target).map fun element =>
    let value := Php.text step.value
    .lines [
      (0, "\x7b"),
      (1, s!"$element = {element};"),
      (1, "$value = $element->getAttribute('value');"),
      (1, "$locator = sprintf(\"option[@value='%s']\", $value);"),
      (1, "$selectedText = $element->findElement(WebDriverBy::xpath($locator))->getText();"),
      (1, s!"$I->assertEquals({value}, $selectedText);"),
      (1, "unset($element, $value, $locator, $selectedText);"),
      (0, "\x7d")]

/-- `assertTitle` -/
def assertTitle : Generator := fun _ step =>
  let expected := Php.text step.target
  .ok (.statement s!"$I->assertEquals({expected}, {title});")

end CestExport.Command
