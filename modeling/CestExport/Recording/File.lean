import CestExport.Config.File
import CestExport.Data.Json
import CestExport.Recording.Reading

/-!
# Recording files

A recording is a JSON file, or a YAML file if its name says so.  Loading gives the
project or the first reason why there is none; validating lists complaints, all
those about the content at once.
-/

namespace CestExport.Recording

open CestExport.Text

/-- Why a recording is not loaded. -/
inductive LoadFault
  | missing (path : Path)
  | disk (error : DiskError)
  | decoding (error : Utf8.Error)
  | empty
  | json (fault : Json.Fault) (line column : Nat)
  | number (cause : Number.WholeError)
  | yaml (error : Yaml.Error)
  | invalid (faults : List DataFault)

/-- Line and column, from one on, of the character behind some others. -/
def lineAndColumn (before : List Char) : Nat × Nat :=
  (before.count '\n' + 1, (before.reverse.takeWhile (· != '\n')).length + 1)

/-- The place of a YAML error in front of its description. -/
def yamlPlace : Yaml.Error → String
  | .misplaced m => s!" (行 {m.line + 1}, 列 {m.column + 1})"
  | _ => ""

/-- A step on the way to a place in data. -/
def placeText : Place → String
  | .key name => name
  | .index n => toString n

/-- The number of faults of a recording. -/
def faultCount (n : Nat) : String :=
  if n = 1 then s!"{n} validation error" else s!"{n} validation errors"

/-- A fault and its place, on two lines. -/
def faultLines (f : DataFault) : String :=
  let place := ".".intercalate (f.place.map placeText)
  s!"\n{place}\n  {f.kind.message}"

/-- The text of a fault. -/
def LoadFault.message : LoadFault → String
  | missing path => s!"プロジェクトファイルが見つかりません: {path.display}"
  | disk e => e.message
  | decoding e => e.message
  | empty => "プロジェクトファイルが空です"
  | json fault line column => s!"JSON 構文エラー (行 {line}, 列 {column}): {fault.message}"
  | number cause => cause.message
  | yaml e => if e.isSyntax then s!"YAML 構文エラー{yamlPlace e}: {e.message}" else e.message
  | invalid faults =>
    s!"スキーマ検証エラー: {faultCount faults.length} for Project" ++
      String.join (faults.map faultLines)

/-- Whether a fault is one of the text, and its line if that is known. -/
def LoadFault.syntaxLine? : LoadFault → Option (Option Nat)
  | json _ line _ => some (some line)
  | yaml (.misplaced m) => some (some (m.line + 1))
  | yaml .unprintable | yaml .unevenIndent => some none
  | _ => none

/-! ## Loading -/

/-- The endings of the names of YAML files. -/
def yamlSuffixes : List String := [".yaml", ".yml"]

/-- Whether a path names a YAML file. -/
def isYaml (p : Path) : Bool :=
  yamlSuffixes.contains (String.ofList (p.suffix.toList.map Char.toLower))

/-- The text of a file, with line feeds for all line breaks. -/
def fileText (d : Disk) (p : Path) : Except LoadFault String := do
  let bytes ← (d.read p).mapError .disk
  let text ← (Utf8.decode bytes).mapError .decoding
  .ok (String.ofList (Utf8.unifyBreaks text.toList))

/-- The fault of a JSON text. -/
def jsonFault (text : String) : Json.Error → LoadFault
  | .syntaxFault fault position =>
    let (line, column) := lineAndColumn (text.toList.take position)
    .json fault line column
  | .number cause => .number cause

/-- The data that a text writes, in the format that a path names. -/
def textData (p : Path) (text : String) : Except LoadFault Data :=
  if isBlankText text then .ok .null
  else if isYaml p then (Yaml.read text).mapError .yaml
  else (Json.read text).mapError (jsonFault text)

/-- The data of a file that is there. -/
def fileData (d : Disk) (p : Path) : Except LoadFault Data := do
  textData p (← fileText d p)

/-- Data as a project. -/
def projectOf : Data → Except LoadFault Project
  | .null => .error .empty
  | data =>
    match Project.ofData data with
    | .valid project => .ok project
    | .invalid faults => .error (.invalid faults)

/-- The project in a file. -/
def read (d : Disk) (p : Path) : Except LoadFault Project := do
  match ← (d.find p).mapError .disk with
  | none => .error (.missing p)
  | some _ => projectOf (← fileData d p)

/-- The project in a file, and what reading it notes. -/
def load (d : Disk) (p : Path) : Noted LoadFault Project :=
  (Noted.quiet (read d p)).andThen fun project =>
    ⟨.ok project, [.projectLoaded project.name project.tests.length]⟩

/-! ## Validating -/

/-- Something that is wrong with a file. -/
structure Complaint where
  message : String
  location : String
  line : Option Nat := none
deriving DecidableEq, Repr

/-- The complaint about a fault in the data. -/
def faultComplaint (f : DataFault) : Complaint where
  message := f.kind.message
  location := if f.place.isEmpty then "unknown" else " -> ".intercalate (f.place.map placeText)

/-- The complaints about a fault; for other faults than those of the file's content none can be
made. -/
def complaints? (f : LoadFault) : Option (List Complaint) :=
  match f with
  | .missing _ | .empty => some [⟨f.message, "file", none⟩]
  | .invalid faults => some (faults.map faultComplaint)
  | _ => f.syntaxLine?.map fun line => [⟨f.message, "syntax", line⟩]

/-- What is wrong with a file, if that can be told. -/
def validate (d : Disk) (p : Path) : Except LoadFault (List Complaint) :=
  match read d p with
  | .ok _ => .ok []
  | .error f =>
    match complaints? f with
    | some cs => .ok cs
    | none => .error f

end CestExport.Recording
