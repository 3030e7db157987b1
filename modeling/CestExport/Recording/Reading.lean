import CestExport.Data.Check
import CestExport.Recording.Step

/-!
# Recordings as data

Recordings are read from tables; unknown keys are passed over, and a field with
two keys takes the value of the first one.
-/

namespace CestExport

open Check

/-- A script and its arguments. -/
def Script.ofData : Data → Checked Script :=
  record "ScriptSource" fun es =>
    ((required es "script" text).map Script.mk).and (field es "argv" [] [] (tuple text))

/-- A step. -/
def Step.ofData : Data → Checked Step :=
  record "Step" fun es =>
    ((field es "id" [] "" text).map Step.mk)
      |>.and (field es "command" ["name"] "" text)
      |>.and (field es "target" [] "" text)
      |>.and (field es "value" [] "" text)
      |>.and (field es "comment" [] "" text)
      |>.and (field es "opensWindow" ["opens_window"] false bool)
      |>.and (field es "windowHandleName" ["window_handle_name"] "" text)
      |>.and (field es "windowTimeout" ["window_timeout"] none (nullable whole))
      |>.and (field es "script" [] none (nullable Script.ofData))

/-- A test. -/
def TestCase.ofData : Data → Checked TestCase :=
  record "TestCase" fun es =>
    ((field es "id" [] "" text).map TestCase.mk)
      |>.and (required es "name" text)
      |>.and (field es "commands" [] [] (list Step.ofData))

/-- A suite. -/
def Suite.ofData : Data → Checked Suite :=
  record "Suite" fun es =>
    ((field es "id" [] "" text).map Suite.mk)
      |>.and (required es "name" text)
      |>.and (field es "tests" [] [] (list text))

/-- A project. -/
def Project.ofData : Data → Checked Project :=
  record "Project" fun es =>
    ((field es "id" [] "" text).map Project.mk)
      |>.and (required es "name" text)
      |>.and (field es "url" [] "" text)
      |>.and (field es "tests" [] [] (list TestCase.ofData))
      |>.and (field es "suites" [] [] (list Suite.ofData))

end CestExport
