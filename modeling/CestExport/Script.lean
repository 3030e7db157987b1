import CestExport.Scope

/-!
# Scripts with arguments

A recorded script refers to variables as `${name}`; the generated call passes
their values as arguments, and the script reads `arguments[i]` instead.
-/

namespace CestExport

/-- A script, and the variables that are its arguments. -/
structure Script where
  body : String
  argv : List String := []
deriving DecidableEq, Repr

namespace Script

/-- The argument with the value of a variable, which is a new one if there is none, and the variables
that are arguments then. -/
def number (argv : List String) (name : String) : String × List String :=
  let argv := addNew argv name
  (s!"arguments[{argv.idxOf name}]", argv)

/-- The script that a recorded text writes; equal references share an argument. -/
def parse (s : String) : Script :=
  let (body, argv) := Template.replaceAll number [] s
  ⟨body, argv⟩

/-- The array of argument values. -/
def arguments (script : Script) : String :=
  "[" ++ ", ".intercalate (script.argv.map Php.read) ++ "]"

/-- The call that runs a body with the script's arguments; without arguments there is no array. -/
def call (script : Script) (method body : String) : String :=
  if script.argv.isEmpty then s!"$I->{method}({Php.quote body})"
  else s!"$I->{method}({Php.quote body}, {script.arguments})"

/-- The call that evaluates the script as an expression. -/
def expression (script : Script) : String :=
  script.call "executeJS" s!"return ({script.body});"

end Script

end CestExport
