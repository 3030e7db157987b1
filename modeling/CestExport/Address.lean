import CestExport.Locator
import CestExport.Number.Decimal

/-!
# Addressing windows and frames

A window is addressed by handle, by name or by its serial number; a frame by its
place relative to the current one, by number, or by a locator.
-/

namespace CestExport

/-- What a window target says. -/
inductive WindowAddress
  | handle (value : String)
  | name (value : String)
  | serial (number : String)
deriving DecidableEq, Repr

/-- What a frame target says. -/
inductive FrameAddress
  | relative (value : String)
  | index (number : String)
  | locator (value : String)
deriving DecidableEq, Repr

namespace Address

/-- A single line; one line break at the end is left out. -/
def line? (cs : List Char) : Option (List Char) :=
  match Text.cutFirstChars '\n' cs with
  | none => some cs
  | some (l, []) => some l
  | some _ => none

/-- The line that follows a mark. -/
def lineAfter? (mark target : String) : Option String :=
  (Text.dropBeginning? mark.toList target.toList).bind fun cs => (line? cs).map String.ofList

/-- The window with a serial number. -/
def serial (target number : String) : Except Failure WindowAddress :=
  if number = "local" then .ok (.serial "0")
  else if Text.isDigits number then
    (Number.readWhole number).mapError .whole |>.map fun n => .serial (Number.decimal n)
  else .error (.windowSerial target)

/-- The window that a target addresses. -/
def window (target : String) : Except Failure WindowAddress :=
  match lineAfter? "handle=" target with
  | some v => .ok (.handle v)
  | none =>
    match lineAfter? "name=" target with
    | some v => .ok (.name v)
    | none =>
      match lineAfter? "win_ser_" target with
      | some v => serial target v
      | none => .error (.windowTarget target)

/-- The frame with a number; a fraction is cut off. -/
def frameIndex (target number : String) : Except Failure FrameAddress :=
  match (Number.readDecimal? number).bind (·.truncate?) with
  | some n => .ok (.index (Number.decimal n))
  | none => .error (.frameIndex target)

/-- The frame that a target addresses. -/
def frame (target : String) : Except Failure FrameAddress :=
  if target = "relative=top" then .ok (.relative "top")
  else if target = "relative=parent" then .ok (.relative "parent")
  else
    match lineAfter? "index=" target with
    | some v => frameIndex target v
    | none => .ok (.locator target)

end Address

end CestExport
