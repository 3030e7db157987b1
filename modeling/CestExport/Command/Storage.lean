import CestExport.Command.Assertion

/-!
# Commands that run scripts or store values

A stored value is assigned to a variable; without a variable nothing is stored,
and the rest of the step is not even looked at.
-/

namespace CestExport.Command

/-- The call of a script, assigned if the step names a variable. -/
def scriptResult (step : Step) (call : String) : Draft :=
  if step.value = "" then .statement s!"{call};" else .assign step.value call

/-- `executeScript` -/
def executeScript : Generator := fun _ step =>
  let script := step.scriptOrTarget
  .ok (scriptResult step (script.call "executeJS" script.body))

/-- The body that hands a promise's outcome to the last argument. -/
def asyncBody (script : Script) : String :=
  "var callback = arguments[arguments.length - 1];" ++ script.body ++
    ".then(callback).catch(callback);"

/-- `executeAsyncScript` -/
def executeAsyncScript : Generator := fun _ step =>
  let script := step.scriptOrTarget
  .ok (scriptResult step (script.call "executeAsyncJS" (asyncBody script)))

/-- `runScript` -/
def runScript : Generator := fun _ step =>
  let script := step.scriptOrTarget
  let call := script.call "executeJS" script.body
  .ok (.statement s!"{call};")

/-- `run`: calls the method of another test. -/
def run : Generator := fun _ step =>
  match Php.identifier? step.target with
  | some method => .ok (.statement s!"$this->{method}($I);")
  | none => .error (.methodName step.target)

/-- `store` -/
def store : Generator := fun _ step =>
  .ok (.assign step.value (Php.text step.target))

/-- Stores an expression in the step's variable, if it names one. -/
def storeIn (name : String) (expression : Except Failure String) : Except Failure Draft :=
  if name = "" then .ok (.ready .nothing) else expression.map (.assign name)

/-- `storeText` -/
def storeText : Generator := fun _ step =>
  storeIn step.value ((found step.target).map (· ++ "->getText()"))

/-- `storeValue` -/
def storeValue : Generator := fun _ step =>
  storeIn step.value ((found step.target).map (· ++ "->getAttribute('value')"))

/-- The locator and the attribute of a target `locator@attribute`. -/
def attributeLocator (target : String) : Except Failure (String × String) :=
  match Text.cutLast '@' target with
  | some p => .ok p
  | none => .error (.attributeLocator target)

/-- `storeAttribute` -/
def storeAttribute : Generator := fun _ step =>
  storeIn step.value do
    let (locator, key) ← attributeLocator step.target
    let element ← found locator
    let quotedKey := Php.quote key
    .ok s!"{element}->getAttribute({quotedKey})"

/-- `storeTitle` -/
def storeTitle : Generator := fun _ step => .ok (.assign step.value title)

/-- `storeJson` -/
def storeJson : Generator := fun _ step =>
  let json := Php.quote step.target
  .ok (.assign step.value s!"json_decode({json}, true)")

/-- `storeWindowHandle`: the target names the variable. -/
def storeWindowHandle : Generator := fun _ step =>
  .ok (.assign step.target
    "$I->executeInSelenium(fn (RemoteWebDriver $webDriver) => $webDriver->getWindowHandle())")

/-- `storeXpathCount` -/
def storeXpathCount : Generator := fun _ step =>
  storeIn step.value ((Locator.resolve step.target).map fun by_ =>
    s!"count($this->findElements($I, {by_}))")

end CestExport.Command
