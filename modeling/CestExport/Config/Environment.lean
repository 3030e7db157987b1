import CestExport.Config.Basic
import CestExport.Failure
import CestExport.Journal
import CestExport.Number.Decimal

/-!
# Settings from the environment

Five settings have an environment variable.  Values are converted to the kind of
their setting: a truth value is written by one of three words, in any case, and
anything else counts as false; a number that cannot be read leaves the setting as
it was.
-/

namespace CestExport

/-- Why a number is of no use for a setting. -/
inductive UnusableNumber
  /-- An infinite number has no whole part. -/
  | infinite
  /-- A whole number has too many digits for a text. -/
  | tooLongToShow
deriving DecidableEq, Repr

/-- The text of a fault. -/
def UnusableNumber.message : UnusableNumber → String
  | infinite => "cannot convert float infinity to integer"
  | tooLongToShow => Number.WholeError.tooLongToShow.message

/-- The words that stand for true. -/
def truthTexts : List String := ["true", "1", "yes"]

/-- The text that a value gives. -/
def Data.shown (d : Data) : Except UnusableNumber String :=
  if d.isShowable then .ok d.display else .error .tooLongToShow

/-- The truth value that a value gives. -/
def Data.truth : Data → Except UnusableNumber Bool
  | .bool b => .ok b
  | d => d.shown.map fun s => truthTexts.contains (String.ofList (s.toList.map Char.toLower))

/-- A byte as a character; none of those beyond ASCII has a meaning in a number. -/
def asciiChar (b : UInt8) : Char :=
  if b < 0x80 then Char.ofNat b.toNat else '?'

/-- The whole number that a value gives, if it gives one; fractions are cut off. -/
def Data.number : Data → Except UnusableNumber (Option Int)
  | .bool b => .ok (some (if b then 1 else 0))
  | .whole n => .ok (some n)
  | .real (.infinite _) => .error .infinite
  | .real x => .ok x.truncate?
  | .text s => .ok (Number.readWhole s).toOption
  | .bytes bs => .ok (Number.readWhole (String.ofList (bs.map asciiChar))).toOption
  | _ => .ok none

/-- A value converted to a kind, if it can be. -/
def SettingKind.convert : (k : SettingKind) → Data → Except UnusableNumber (Option k.Value)
  | .text, d => d.shown.map some
  | .number, d => d.number
  | .truth, d => d.truth.map some

namespace Config

/-- A setting as an environment variable gives it, and what that notes. -/
def enterVariable (c : Config) (s : Setting) (value : String) : Config × List Event :=
  match s.kind.convert (.text value) with
  | .ok (some v) => (c.set s v, [])
  | _ => (c, [.environmentIndent value])

/-- Settings as the environment gives them, one after the other. -/
def enterVariables (environment : List (String × String)) :
    List Setting → Config → Config × List Event
  | [], c => (c, [])
  | s :: rest, c =>
    match s.environmentName?.bind fun name => environment.lookup name with
    | none => enterVariables environment rest c
    | some value =>
      let (c, events) := c.enterVariable s value
      let (c, later) := enterVariables environment rest c
      (c, events ++ later)

/-- The default settings with those that the environment gives. -/
def ofEnvironment (environment : List (String × String)) : Config × List Event :=
  enterVariables environment Setting.all .default

end Config

end CestExport
