import CestExport.Export.Test

/-!
# Exporting a project

The selected tests are exported one after the other in one context.  Method names
have to differ from each other and from the names of the helper methods.
-/

namespace CestExport

/-- A project as a class. -/
structure ExportedProject where
  projectName : String
  className : String
  tests : List ExportedTest
  helpers : List Method
  /-- The variables that the tests assign, in order of first assignment. -/
  written : List String
deriving DecidableEq, Repr

/-- The unknown commands that were passed over, without repetition. -/
def ExportedProject.skipped (p : ExportedProject) : List String :=
  distinct (p.tests.flatMap (·.skipped))

namespace Export

/-- The tests with the given keys; no keys select all tests. -/
def select (project : Project) (keys : List String) : Except ExportFailure (List TestCase) :=
  if keys.isEmpty then .ok project.tests
  else keys.mapM fun key =>
    match project.findTest? key with
    | some t => .ok t
    | none => .error (.unknownTest key)

/-- Tests as methods, whose names have to differ from those taken already. -/
def tests (registry : Registry) (config : Config) (taken : List String) :
    List TestCase → Context → Outcome ExportFailure (List ExportedTest)
  | [], c => ⟨.ok [], c, []⟩
  | t :: ts, c =>
    let o := test registry config t c
    match o.result with
    | .error f => ⟨.error f, o.context, o.events⟩
    | .ok e =>
      if taken.contains e.methodName then
        ⟨.error (.duplicateMethod e.methodName t.name), o.context, o.events⟩
      else
        let p := tests registry config (e.methodName :: taken) ts o.context
        ⟨p.result.map (e :: ·), p.context, o.events ++ p.events⟩

/-- The name of the tester's class without its namespace. -/
def testerName (config : Config) : String :=
  Text.afterLast '\\' config.testerClass

/-- The tests that are selected and the name of their class. -/
def plan (config : Config) (project : Project) (keys : List String) :
    Except ExportFailure (List TestCase × String) := do
  let selected ← select project keys
  match Php.className? project.name config.classSuffix with
  | some name => .ok (selected, name)
  | none => .error (.className (Php.pascalCase project.name ++ config.classSuffix))

/-- A project as a class. -/
def project (registry : Registry) (config : Config) (p : Project) (keys : List String) :
    Outcome ExportFailure ExportedProject :=
  let context := start config (some p)
  match plan config p keys with
  | .error f => ⟨.error f, context, []⟩
  | .ok (selected, name) =>
    let helpers := Window.helperMethods (testerName config)
    let o := tests registry config (helpers.map (·.name)) selected context
    match o.result with
    | .error f => ⟨.error f, o.context, o.events⟩
    | .ok es =>
      let result : ExportedProject := ⟨p.name, name, es, helpers, o.context.scope.written⟩
      ⟨.ok result, o.context,
        o.events ++ [.projectExported p.name es.length result.skipped.length]⟩

end Export

end CestExport
