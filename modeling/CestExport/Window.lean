import CestExport.Emission
import CestExport.Scope
import CestExport.Timeout
import CestExport.Recording.Step

/-!
# Steps that open a window

The generated code remembers the known window handles, takes the step, waits for
a handle that is new, and stores it if the recording names a variable for it.
The methods it calls are part of every generated class.
-/

namespace CestExport.Window

/-- The expression for all known window handles. -/
def allHandles : String := "$this->windowHandles($I)"

/-- How long to wait for a window if the recording does not say, in milliseconds. -/
def defaultTimeout : Int := 2000

/-- The literal for the time to wait for a step's window. -/
def timeout (step : Step) : Except Failure String :=
  (Duration.whole (step.windowTimeout.getD defaultTimeout)).seconds 0

/-- The statement that waits for the new window, and the scope after it. -/
def wait (step : Step) (seconds : String) (scope : Scope) : String × Scope :=
  let call := s!"$this->waitForWindow($I, {seconds})"
  if step.windowHandleName = "" then (call ++ ";", scope)
  else scope.write step.windowHandleName call

/-- An emission between the snapshot of the handles and the wait for a new one. -/
def wrap (step : Step) (emission : Emission) (scope : Scope) : Except Failure (Block × Scope) :=
  (timeout step).map fun seconds =>
    let inner := emission.toBlock
    let (snapshot, scope) := scope.write Scope.windowHandlesSlot allHandles
    let (waiting, scope) := wait step seconds scope
    (⟨⟨0, snapshot⟩ :: inner.lines ++ [⟨0, waiting⟩], inner.before, inner.after⟩, scope)

/-- The method that finds one element. -/
def findElement (tester : String) : Method where
  name := "findElement"
  declaration := s!"private function findElement({tester} $I, WebDriverBy $by)"
  lines := [⟨0, "return $I->executeInSelenium(fn (RemoteWebDriver $webDriver) => " ++
    "$webDriver->findElement($by));"⟩]

/-- The method that finds all elements. -/
def findElements (tester : String) : Method where
  name := "findElements"
  declaration := s!"private function findElements({tester} $I, WebDriverBy $by)"
  lines := [⟨0, "return $I->executeInSelenium(fn (RemoteWebDriver $webDriver) => " ++
    "$webDriver->findElements($by));"⟩]

/-- The method that lists the window handles. -/
def windowHandles (tester : String) : Method where
  name := "windowHandles"
  declaration := s!"private function windowHandles({tester} $I)"
  lines := [⟨0, "return $I->executeInSelenium(fn (RemoteWebDriver $webDriver) => " ++
    "$webDriver->getWindowHandles());"⟩]

/-- The method that waits for a new window. -/
def waitForWindow (tester : String) : Method where
  name := "waitForWindow"
  declaration := s!"private function waitForWindow({tester} $I, $timeout = 2)"
  lines := [
    ⟨0, "$I->wait($timeout);"⟩,
    ⟨0, "$handlesThen = $this->vars['windowHandles'];"⟩,
    ⟨0, "$handlesNow = $this->windowHandles($I);"⟩,
    ⟨0, "if (count($handlesNow) > count($handlesThen)) \x7b"⟩,
    ⟨1, "return array_values(array_diff($handlesNow, $handlesThen))[0];"⟩,
    ⟨0, "\x7d"⟩,
    ⟨0, "throw new \\RuntimeException('New window did not appear before timeout');"⟩]

/-- The methods that every generated class has besides its tests. -/
def helperMethods (tester : String) : List Method :=
  [findElement tester, findElements tester, windowHandles tester, waitForWindow tester]

end CestExport.Window
