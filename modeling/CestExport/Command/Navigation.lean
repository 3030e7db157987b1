import CestExport.Address
import CestExport.Command.Element
import CestExport.Window

/-!
# Commands that navigate

Opening pages, sizing the window, and switching between windows and frames.
-/

namespace CestExport.Command

/-- Whether a target is a URL of its own. -/
def isAbsoluteUrl (target : String) : Bool :=
  ["file://", "http://", "https://"].any (Text.beginsWith · target)

/-- `open`: a target that is no URL of its own follows the base URL. -/
def openUrl : Generator := fun settings step =>
  let url := if isAbsoluteUrl step.target then step.target else settings.baseUrl ++ step.target
  let url := Php.text url
  .ok (.statement s!"$I->amOnUrl({url});")

/-- `close` -/
def close : Generator := fun _ _ => .ok (.statement "$I->closeTab();")

/-- Width and height in a target such as `1280x800`. -/
def windowSize (target : String) : Except Failure (Int × Int) :=
  match Text.cutFirst 'x' target with
  | none => .error (.windowSize target)
  | some (width, height) =>
    if Text.isDigits (Text.trim width) && Text.isDigits (Text.trim height) then do
      let w ← (Number.readWhole width).mapError .whole
      let h ← (Number.readWhole height).mapError .whole
      .ok (w, h)
    else .error (.windowSize target)

/-- `setWindowSize` -/
def setWindowSize : Generator := fun _ step =>
  (windowSize step.target).map fun (w, h) =>
    let width := Number.decimal w
    let height := Number.decimal h
    .statement s!"$I->resizeWindow({width}, {height});"

/-- `selectWindow` -/
def selectWindow : Generator := fun _ step =>
  (Address.window step.target).map fun
    | .handle v | .name v =>
      let window := Php.text v
      .statement s!"$I->switchToWindow({window});"
    | .serial n => .statement s!"$I->switchToWindow({Window.allHandles}[{n}]);"

/-- `selectFrame` -/
def selectFrame : Generator := fun _ step => do
  match ← Address.frame step.target with
  | .relative _ => .ok (.statement (selenium "$webDriver->switchTo()->defaultContent()"))
  | .index n => .ok (.statement (selenium s!"$webDriver->switchTo()->frame({n})"))
  | .locator l => withElement l [(0, selenium "$webDriver->switchTo()->frame($element)")]

end CestExport.Command
