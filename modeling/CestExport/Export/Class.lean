import CestExport.Export.Project

/-!
# The generated class

The text of the class: the namespace if there is one, the imports, and the class
with its variables, its tests and its helper methods.  Lines keep their text; the
settings only say how far they are indented.
-/

namespace CestExport

namespace Export

/-- The classes that generated code refers to. -/
def standardImports : List String :=
  ["Facebook\\WebDriver\\Remote\\RemoteWebDriver", "Facebook\\WebDriver\\WebDriverBy",
    "Facebook\\WebDriver\\WebDriverExpectedCondition", "Facebook\\WebDriver\\WebDriverKeys"]

/-- A tester's class with a namespace is imported as well. -/
def imports (config : Config) : List String :=
  if config.testerClass.toList.contains '\\' then
    standardImports ++ [String.ofList (config.testerClass.toList.dropWhile (· == '\\'))]
  else standardImports

/-- A method with the lines of its body, in a class indented by `unit`. -/
def methodLines (unit declaration : String) (body : List String) : List String :=
  ["", unit ++ declaration, unit ++ "\x7b"] ++ body.map (unit ++ unit ++ ·) ++ [unit ++ "\x7d"]

/-- The declaration of a test's method. -/
def testDeclaration (tester : String) (t : ExportedTest) : String :=
  s!"public function {t.methodName}({tester} $I)"

/-- The lines above the class. -/
def header (config : Config) : List String :=
  ["<?php"] ++ (if config.space = "" then [] else ["", s!"namespace {config.space};"]) ++
    [""] ++ (imports config).map (fun i => s!"use {i};") ++ [""]

/-- The lines of a class, when `unit` indents its members and the helper methods have the given
bodies. -/
def classLines (config : Config) (unit : String) (p : ExportedProject)
    (bodies : List (Method × List String)) : List String :=
  header config ++ [s!"class {p.className}", "\x7b", unit ++ "private $vars = [];"] ++
    p.tests.flatMap (fun t => methodLines unit (testDeclaration (testerName config) t) t.lines) ++
    bodies.flatMap (fun b => methodLines unit b.1.declaration b.2) ++ ["\x7d"]

/-- The helper methods with the lines of their bodies. -/
def helperBodies (config : Config) (helpers : List Method) :
    Except Layout.IndentError (List (Method × List String)) :=
  helpers.mapM fun m => (Layout.indent config.indent m.lines).map (m, ·)

/-- The text of the class. -/
def render (config : Config) (p : ExportedProject) : Except Layout.IndentError String := do
  let bodies ← helperBodies config p.helpers
  let unit ← Layout.spaces config.indent
  .ok (String.join ((classLines config unit p bodies).map (· ++ "\n")))

end Export

end CestExport
