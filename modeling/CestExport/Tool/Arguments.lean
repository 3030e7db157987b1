import CestExport.Disk.Path

/-!
# Arguments

Arguments that begin with a hyphen are options; they may stand among the others, up
to a double hyphen.  A long option takes its value from behind an equals sign or
from the next argument.  Letters may be joined behind one hyphen, and the last one
may be followed by its value.
-/

namespace CestExport.Tool

/-- Why arguments are refused. -/
inductive UsageError
  | noCommand
  | unknownCommand (name : String)
  | unknownOption (name : String)
  | missingValue (name : String)
  | unwantedValue (name : String)
  | missingArgument
  | extraArgument (text : String)
deriving DecidableEq, Repr

/-! ## Options -/

/-- The options of a command. -/
structure Options (α : Type) where
  /-- The option with a name of two hyphens and a word. -/
  long? : String → Option α
  /-- The option of a letter. -/
  letter? : Char → Option α
  takesValue : α → Bool

/-- Options with their values, and the arguments that are left. -/
abbrev Scanned (α : Type) := List (α × String) × List String

namespace Options

variable {α : Type}

/-- Takes the value of an option from the next argument. -/
def nextValue (o : α) (name : String) : List String → Except UsageError (Scanned α)
  | v :: rest => .ok ([(o, v)], rest)
  | [] => .error (.missingValue name)

/-- The options of joined letters. -/
def letters (t : Options α) (rest : List String) : List Char → Except UsageError (Scanned α)
  | [] => .ok ([], rest)
  | c :: cs =>
    let name := String.ofList ['-', c]
    match t.letter? c with
    | none => .error (.unknownOption name)
    | some o =>
      if t.takesValue o then
        if cs.isEmpty then nextValue o name rest else .ok ([(o, String.ofList cs)], rest)
      else (t.letters rest cs).map fun s => ((o, "") :: s.1, s.2)

/-- A long option, with the value that is attached to it if there is one. -/
def long (t : Options α) (o : α) (name : String) (attached : Option String)
    (rest : List String) : Except UsageError (Scanned α) :=
  if t.takesValue o then
    match attached with
    | some v => .ok ([(o, v)], rest)
    | none => nextValue o name rest
  else if attached.isSome then .error (.unwantedValue name)
  else .ok ([(o, "")], rest)

/-- The options of an argument that begins with a hyphen. -/
def option (t : Options α) (argument : String) (rest : List String) :
    Except UsageError (Scanned α) :=
  let (name, attached) := match Text.cutFirst '=' argument with
    | some (name, v) => (name, some v)
    | none => (argument, none)
  match t.long? name with
  | some o => t.long o name attached rest
  | none =>
    if Text.beginsWith "--" argument then .error (.unknownOption name)
    else t.letters rest (argument.toList.drop 1)

/-- Whether an argument is taken for options. -/
def isOption (argument : String) : Bool :=
  Text.beginsWith "-" argument && argument != "-"

/-- The options among at most `fuel` arguments, and the others. -/
def scanSome (t : Options α) : Nat → List String → Except UsageError (Scanned α)
  | 0, rest => .ok ([], rest)
  | _, [] => .ok ([], [])
  | fuel + 1, a :: rest =>
    if a = "--" then .ok ([], rest)
    else if isOption a then do
      let (os, rest) ← t.option a rest
      let (more, others) ← t.scanSome fuel rest
      .ok (os ++ more, others)
    else (t.scanSome fuel rest).map fun s => (s.1, a :: s.2)

/-- The options among arguments, and the others. -/
def scan (t : Options α) (arguments : List String) : Except UsageError (Scanned α) :=
  t.scanSome arguments.length arguments

end Options

/-! ## Requests -/

/-- What an export is to do. -/
structure ExportRequest where
  project : Path
  output : Path := {}
  baseUrl : Option String := none
  tests : List String := []
  settings : Option Path := none
  strict : Option Bool := none
  verbose : Bool := false
deriving DecidableEq, Repr

/-- What the tool is asked for. -/
inductive Request
  | exporting (r : ExportRequest)
  | linting (project : Path)
  | validating (project : Path)
  | listing
  | starting (directory : Path)
  | help
deriving DecidableEq, Repr

/-- The options of an export. -/
inductive ExportOption
  | output
  | baseUrl
  | test
  | settings
  | strict
  | lenient
  | verbose
  | help
deriving DecidableEq, Repr

/-- The names of the options of an export. -/
def exportOptions : Options ExportOption where
  long?
    | "--output" => some .output
    | "--base-url" => some .baseUrl
    | "--test" => some .test
    | "--config" => some .settings
    | "--strict" => some .strict
    | "--no-strict" => some .lenient
    | "--verbose" => some .verbose
    | "--help" => some .help
    | _ => none
  letter?
    | 'o' => some .output
    | 't' => some .test
    | 'c' => some .settings
    | 'v' => some .verbose
    | _ => none
  takesValue
    | .output | .baseUrl | .test | .settings => true
    | _ => false

/-- The only option of the other commands. -/
def helpOption : Options Unit where
  long? name := if name = "--help" then some () else none
  letter? _ := none
  takesValue _ := false

/-- An export with one more option; a later one takes the place of an earlier one. -/
def ExportRequest.add (r : ExportRequest) (o : ExportOption × String) : ExportRequest :=
  match o.1 with
  | .output => { r with output := .ofText o.2 }
  | .baseUrl => { r with baseUrl := some o.2 }
  | .test => { r with tests := r.tests ++ [o.2] }
  | .settings => { r with settings := some (.ofText o.2) }
  | .strict => { r with strict := some true }
  | .lenient => { r with strict := some false }
  | .verbose => { r with verbose := true }
  | .help => r

/-- A single argument. -/
def only : List String → Except UsageError String
  | [] => .error .missingArgument
  | [a] => .ok a
  | _ :: b :: _ => .error (.extraArgument b)

/-- The request of an export. -/
def exportRequest (arguments : List String) : Except UsageError Request := do
  let (os, others) ← exportOptions.scan arguments
  if os.any (·.1 == .help) then return .help
  let project ← only others
  return .exporting (os.foldl ExportRequest.add { project := .ofText project })

/-- The request of a command without options. -/
def plainRequest (make : List String → Except UsageError Request) (arguments : List String) :
    Except UsageError Request := do
  let (os, others) ← helpOption.scan arguments
  if os.isEmpty then make others else return .help

/-- The request of a command, from its arguments. -/
def commandRequest (name : String) (arguments : List String) : Except UsageError Request :=
  match name with
  | "export" => exportRequest arguments
  | "lint" => plainRequest (fun as => (only as).map fun a => .linting (.ofText a)) arguments
  | "validate" => plainRequest (fun as => (only as).map fun a => .validating (.ofText a)) arguments
  | "list-commands" =>
    plainRequest (fun
      | [] => .ok .listing
      | a :: _ => .error (.extraArgument a)) arguments
  | "init" =>
    plainRequest (fun as =>
      if as.isEmpty then .ok (.starting {})
      else (only as).map fun a => .starting (.ofText a)) arguments
  | _ => .error (.unknownCommand name)

/-- The request that arguments make; the first one names the command. -/
def Request.ofArguments : List String → Except UsageError Request
  | [] => .error .noCommand
  | "--" :: [] => .error .noCommand
  | "--" :: name :: rest => commandRequest name rest
  | name :: rest =>
    if name = "--help" then .ok .help
    else if Options.isOption name then .error (.unknownOption name)
    else commandRequest name rest

end CestExport.Tool
