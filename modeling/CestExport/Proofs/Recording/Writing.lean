import CestExport.Recording.Reading

/-!
# Writing recordings back

A recording is written as a table for each record, with all its fields: under the
keys that recordings have, or under the names of the fields, and with arguments as
a tuple, or as a list where the format has no tuples.  What is written is read as
the same recording.

    Project.ofData (p.toData m) = .valid p                             (ofData_toData)
-/

namespace CestExport

open Check

/-! ## Algorithm -/

/-- How records are written. -/
structure Manner where
  /-- Fields stand under the keys that recordings have, not under their own names. -/
  recorded : Bool
  /-- Arguments are a tuple, not a list. -/
  tuples : Bool
deriving DecidableEq, Repr

namespace Manner

/-- The key of a field that has two names. -/
def key (m : Manner) (recorded field : String) : String :=
  if m.recorded then recorded else field

/-- The arguments of a script. -/
def arguments (m : Manner) (names : List String) : Data :=
  if m.tuples then .tuple (names.map .text) else .list (names.map .text)

end Manner

/-- A value that may be missing. -/
def Data.ofOption {α : Type} (write : α → Data) : Option α → Data
  | some a => write a
  | none => .null

/-- A script and its arguments, written. -/
def Script.toData (m : Manner) (s : Script) : Data :=
  .table [(.text "script", .text s.body), (.text "argv", m.arguments s.argv)]

/-- A step, written. -/
def Step.toData (m : Manner) (s : Step) : Data :=
  .table [
    (.text "id", .text s.id),
    (.text (m.key "command" "name"), .text s.name),
    (.text "target", .text s.target),
    (.text "value", .text s.value),
    (.text "comment", .text s.comment),
    (.text (m.key "opensWindow" "opens_window"), .bool s.opensWindow),
    (.text (m.key "windowHandleName" "window_handle_name"), .text s.windowHandleName),
    (.text (m.key "windowTimeout" "window_timeout"), .ofOption .whole s.windowTimeout),
    (.text "script", .ofOption (Script.toData m) s.script)]

/-- A test, written. -/
def TestCase.toData (m : Manner) (t : TestCase) : Data :=
  .table [
    (.text "id", .text t.id),
    (.text "name", .text t.name),
    (.text "commands", .list (t.commands.map (Step.toData m)))]

/-- A suite, written. -/
def Suite.toData (s : Suite) : Data :=
  .table [
    (.text "id", .text s.id),
    (.text "name", .text s.name),
    (.text "tests", .list (s.tests.map .text))]

/-- A project, written. -/
def Project.toData (m : Manner) (p : Project) : Data :=
  .table [
    (.text "id", .text p.id),
    (.text "name", .text p.name),
    (.text "url", .text p.url),
    (.text "tests", .list (p.tests.map (TestCase.toData m))),
    (.text "suites", .list (p.suites.map Suite.toData))]

/-! ## Reading what is written -/

namespace Check

open Checked

variable {α : Type} {check : Data → Checked α} {write : α → Data}

theorem text_text (s : String) : text (.text s) = .valid s := rfl

theorem whole_whole (n : Int) : whole (.whole n) = .valid n := rfl

theorem each_map (h : ∀ a, check (write a) = .valid a) (n : Nat) (as : List α) :
    each check n (as.map write) = .valid as := by
  induction as generalizing n with
  | nil => rfl
  | cons a as ih =>
    rw [List.map_cons, each, h a, ih (n + 1)]
    rfl

theorem list_map (h : ∀ a, check (write a) = .valid a) (as : List α) :
    list check (.list (as.map write)) = .valid as :=
  each_map h 0 as

theorem tuple_arguments (m : Manner) (names : List String) :
    tuple text (m.arguments names) = .valid names := by
  have heach : each text 0 (names.map .text) = .valid names := each_map text_text 0 names
  unfold Manner.arguments
  split
  next => exact heach
  next => exact heach

theorem nullable_ofOption (h : ∀ a, check (write a) = .valid a) (hnull : ∀ a, write a ≠ .null)
    (o : Option α) : nullable check (.ofOption write o) = .valid o := by
  cases o with
  | none => rfl
  | some a =>
    have hmap : nullable check (write a) = (check (write a)).map some := by
      unfold nullable
      split
      next heq => exact absurd heq (hnull a)
      next => rfl
    rw [Data.ofOption, hmap, h a]
    rfl

end Check

/-! In each table the fields are found under their keys; what is left is to read the parts. -/

theorem Script.ofData_toData (m : Manner) (s : Script) : Script.ofData (s.toData m) = .valid s := by
  show ((Checked.valid s.body).map Script.mk).and
    ((tuple text (m.arguments s.argv)).inside (.key "argv")) = _
  rw [tuple_arguments]
  rfl

theorem Step.ofData_toData (m : Manner) (s : Step) : Step.ofData (s.toData m) = .valid s := by
  have htimeout : nullable whole (.ofOption .whole s.windowTimeout) = .valid s.windowTimeout :=
    nullable_ofOption whole_whole (by intro n h; cases h) _
  have hscript : nullable Script.ofData (.ofOption (Script.toData m) s.script) = .valid s.script :=
    nullable_ofOption (Script.ofData_toData m) (by intro script h; cases h) _
  -- the two spellings of a key are looked for one after the other
  have hfields : Step.ofData (s.toData m) = (((Checked.valid s.id).map Step.mk)
      |>.and (.valid s.name)
      |>.and (.valid s.target)
      |>.and (.valid s.value)
      |>.and (.valid s.comment)
      |>.and (.valid s.opensWindow)
      |>.and (.valid s.windowHandleName)
      |>.and ((nullable whole (.ofOption .whole s.windowTimeout)).inside (.key "windowTimeout"))
      |>.and ((nullable Script.ofData (.ofOption (Script.toData m) s.script)).inside
        (.key "script"))) := by
    obtain ⟨_ | _, tuples⟩ := m
    · rfl
    · rfl
  rw [hfields, htimeout, hscript]
  rfl

theorem TestCase.ofData_toData (m : Manner) (t : TestCase) :
    TestCase.ofData (t.toData m) = .valid t := by
  show (((Checked.valid t.id).map TestCase.mk).and (.valid t.name)).and
    ((list Step.ofData (.list (t.commands.map (Step.toData m)))).inside (.key "commands")) = _
  rw [list_map (Step.ofData_toData m)]
  rfl

theorem Suite.ofData_toData (s : Suite) : Suite.ofData s.toData = .valid s := by
  show (((Checked.valid s.id).map Suite.mk).and (.valid s.name)).and
    ((list text (.list (s.tests.map .text))).inside (.key "tests")) = _
  rw [list_map text_text]
  rfl

/-- A project is read as it was written, under either keys. -/
theorem Project.ofData_toData (m : Manner) (p : Project) :
    Project.ofData (p.toData m) = .valid p := by
  show (((((Checked.valid p.id).map Project.mk).and (.valid p.name)).and (.valid p.url)).and
    ((list TestCase.ofData (.list (p.tests.map (TestCase.toData m)))).inside (.key "tests"))).and
    ((list Suite.ofData (.list (p.suites.map Suite.toData))).inside (.key "suites")) = _
  rw [list_map (TestCase.ofData_toData m), list_map Suite.ofData_toData]
  rfl

end CestExport
