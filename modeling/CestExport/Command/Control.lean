import CestExport.Command.Draft
import CestExport.Text.Blank

/-!
# Commands that branch and loop

Each of them generates the line that opens, continues or closes a block of the
generated code, and shifts the level of what follows.
-/

namespace CestExport.Command

/-- The condition of a step, evaluated in the browser. -/
def condition (step : Step) : String :=
  "(bool) " ++ step.scriptOrTarget.expression

/-- A line that shifts the level before and after itself. -/
def bracket (text : String) (before after : Int) : Except Failure Draft :=
  .ok (.ready (.block ⟨[⟨0, text⟩], before, after⟩))

/-- `if` -/
def beginIf : Generator := fun _ step => bracket s!"if ({condition step}) \x7b" 0 1

/-- `elseIf` -/
def elseIf : Generator := fun _ step => bracket s!"\x7d elseif ({condition step}) \x7b" (-1) 1

/-- `else` -/
def otherwise : Generator := fun _ _ => bracket "\x7d else \x7b" (-1) 1

/-- `end` -/
def endBlock : Generator := fun _ _ => bracket "\x7d" (-1) 0

/-- `do` -/
def beginDo : Generator := fun _ _ => bracket "do \x7b" 0 1

/-- `repeatIf` -/
def repeatIf : Generator := fun _ step => bracket s!"\x7d while ({condition step});" (-1) 0

/-- `while` -/
def beginWhile : Generator := fun _ step => bracket s!"while ({condition step}) \x7b" 0 1

/-- `forEach`: the target names the collection, the value the variable of the items. -/
def forEach : Generator := fun _ step =>
  .ok (.iterate (Php.read step.target) step.value)

/-- The number of rounds in a target: digits, or a reference to a variable. -/
def rounds (target : String) : Except Failure String :=
  match Template.single? target with
  | some name => .ok s!"(int) {Php.read name}"
  | none =>
    if Text.isDigits target then (Number.readWhole target).mapError .whole |>.map Number.decimal
    else .error (.loopCount target)

/-- `times` -/
def times : Generator := fun _ step =>
  (rounds (Text.trim step.target)).map (.repeated step.id)

end CestExport.Command
