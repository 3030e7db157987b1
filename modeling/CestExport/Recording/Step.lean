import CestExport.Script

/-!
# Recordings

A project holds tests, a test holds steps, and a step names a command with its
target and value.  What target and value mean depends on the command.
-/

namespace CestExport

/-- One recorded command. -/
structure Step where
  id : String := ""
  name : String := ""
  target : String := ""
  value : String := ""
  comment : String := ""
  opensWindow : Bool := false
  windowHandleName : String := ""
  /-- How long to wait for the new window, in milliseconds. -/
  windowTimeout : Option Int := none
  /-- The script if it is recorded apart from the target. -/
  script : Option Script := none
deriving DecidableEq, Repr

/-- A recorded test. -/
structure TestCase where
  id : String := ""
  name : String
  commands : List Step := []
deriving DecidableEq, Repr

/-- A collection of tests, by their ids. -/
structure Suite where
  id : String := ""
  name : String
  tests : List String := []
deriving DecidableEq, Repr

/-- A recorded project. -/
structure Project where
  id : String := ""
  name : String
  url : String := ""
  tests : List TestCase := []
  suites : List Suite := []
deriving DecidableEq, Repr

namespace Step

/-- Commented out. -/
def isDisabled (s : Step) : Bool :=
  Text.beginsWith "//" s.name

/-- Neither commented out nor without a command. -/
def isActive (s : Step) : Bool :=
  s.name != "" && !s.isDisabled

/-- The step's script: the recorded one, or else the one its target writes. -/
def scriptOrTarget (s : Step) : Script :=
  s.script.getD (Script.parse s.target)

end Step

namespace Project

/-- The first test with this id or name. -/
def findTest? (p : Project) (key : String) : Option TestCase :=
  p.tests.find? fun t => t.id == key || t.name == key

end Project

end CestExport
