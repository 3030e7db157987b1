import CestExport.Config.Basic
import CestExport.Layout
import CestExport.Registry

/-!
# Exporting a test

The active steps of a test are generated in order.  The first failure ends the
export and is reported with the position of its step; the context is returned in
any case, with all that the steps have recorded until then.
-/

namespace CestExport

/-- A test as a method of the generated class. -/
structure ExportedTest where
  name : String
  methodName : String
  lines : List String
  /-- The unknown commands that were passed over. -/
  skipped : List String
deriving DecidableEq, Repr

/-- Why an export fails. -/
inductive ExportFailure
  /-- The test has no name that a method could have. -/
  | methodName (name : String)
  /-- A step cannot be generated. -/
  | step (test : String) (position : Nat) (command : String) (cause : Failure)
  /-- A number of a step is out of range, and its position is not known. -/
  | range (cause : Failure)
  | indent
  | className (name : String)
  | unknownTest (key : String)
  | duplicateMethod (method test : String)
deriving DecidableEq, Repr

namespace ExportFailure

/-- The failure of a step, with its position if that is to be reported. -/
def ofStep (test : String) (position : Nat) (step : Step) (cause : Failure) : ExportFailure :=
  match cause.kind with
  | .overflow => .range cause
  | _ => .step test position step.name cause

/-- The text of a failure. -/
def message : ExportFailure → String
  | methodName name => (Failure.methodName name).message
  | step test position command cause =>
    s!"{test} の {position} 番目のステップ（{command}）: {cause.message}"
  | range cause => cause.message
  | indent => "cannot fit 'int' into an index-sized integer"
  | className name => (Failure.methodName name).message
  | unknownTest key => s!"テストが見つかりません: {key}"
  | duplicateMethod method test => s!"生成メソッド名が重複しています: {method}（テスト: {test}）"

end ExportFailure

/-- An outcome, the context it leaves, and what was noted. -/
structure Outcome (ε α : Type) where
  result : Except ε α
  context : Context
  events : List Event

namespace Export

/-- The notes on variables that one context has and an earlier one has not. -/
def newVariables (earlier later : Context) : List Event :=
  (later.scope.written.drop earlier.scope.written.length).map .variableWritten

/-- What the steps of a test generate, and the commands passed over. -/
structure Body where
  emissions : List Emission := []
  skipped : List String := []

/-- Generates the steps of a test from a position on. -/
def steps (registry : Registry) (strict : Bool) (test : String) :
    Nat → List Step → Context → Outcome ExportFailure Body
  | _, [], c => ⟨.ok {}, c, []⟩
  | n, s :: rest, c =>
    if !s.isActive then steps registry strict test (n + 1) rest c
    else if !registry.canEmit s.name then
      if strict then
        ⟨.error (.step test n s.name (.unsupportedCommand s.name)), c, []⟩
      else
        let o := steps registry strict test (n + 1) rest c
        ⟨o.result.map fun b => { b with skipped := s.name :: b.skipped }, o.context,
          .stepSkipped test n s.name :: o.events⟩
    else
      match registry.emit c s with
      | (.error f, c') => ⟨.error (.ofStep test n s f), c', newVariables c c'⟩
      | (.ok e, c') =>
        let o := steps registry strict test (n + 1) rest c'
        ⟨o.result.map fun b => { b with emissions := e :: b.emissions }, o.context,
          newVariables c c' ++ o.events⟩

/-- The lines of a method's body. -/
def bodyLines (config : Config) (emissions : List Emission) :
    Except ExportFailure (List String) :=
  (Layout.indent config.indent (Layout.lay emissions)).mapError fun _ => .indent

/-- A test as a method, from a context on. -/
def test (registry : Registry) (config : Config) (t : TestCase) (context : Context) :
    Outcome ExportFailure ExportedTest :=
  match Php.identifier? t.name with
  | none => ⟨.error (.methodName t.name), context, []⟩
  | some method =>
    let o := steps registry config.strict t.name 1 t.commands context
    match o.result with
    | .error f => ⟨.error f, o.context, o.events⟩
    | .ok body =>
      match bodyLines config body.emissions with
      | .error f => ⟨.error f, o.context, o.events⟩
      | .ok lines => ⟨.ok ⟨t.name, method, lines, body.skipped⟩, o.context,
          o.events ++ [.testExported t.name lines.length]⟩

/-- The context in which the export of a project begins; the settings' base URL goes before the
project's. -/
def start (config : Config) (project : Option Project) : Context where
  settings := {
    baseUrl := if config.baseUrl = "" then (project.map (·.url)).getD "" else config.baseUrl
    waitForTextTimeout := config.waitForTextTimeout
    waitTimeout := config.waitTimeout }

end Export

end CestExport
