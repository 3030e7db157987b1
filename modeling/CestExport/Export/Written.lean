import CestExport.Disk.Basic
import CestExport.Export.Class

/-!
# Writing the class

The class is written to a file of its name.  The file is opened before the text is
made, so it is empty if the text cannot be made.
-/

namespace CestExport

/-- Why a class is not written. -/
inductive WriteFault
  | disk (error : DiskError)
  | indent (error : Layout.IndentError)

/-- The text of a fault. -/
def WriteFault.message : WriteFault → String
  | disk e => e.message
  | indent _ => ExportFailure.indent.message

/-- What became of writing a class, and the files after it. -/
structure Written where
  result : Except WriteFault Path
  disk : Disk
  events : List Event := []

namespace Export

/-- The file of a class in a directory. -/
def classFile (directory : Path) (p : ExportedProject) : Path :=
  directory.child s!"{p.className}.php"

/-- The bytes of a text. -/
def bytesOf (s : String) : Bytes := s.toUTF8.toList

/-- Opens the file of a class: its place, where it is empty then.  Directories that are missing are
made, and stay if the file cannot be opened. -/
def openFile (d : Disk) (directory file : Path) : Except DiskError (List String) × Disk :=
  match d.ensureDirectories directory with
  | (.error e, made) => (.error e, made)
  | (.ok _, made) =>
    match made.filePlace file with
    | .error e => (.error e, made)
    | .ok place => (.ok place, made.putFile place [])

/-- Writes a class to a directory. -/
def write (config : Config) (d : Disk) (p : ExportedProject) (directory : Path) : Written :=
  let file := classFile directory p
  match openFile d directory file with
  | (.error e, opened) => ⟨.error (.disk e), opened, []⟩
  | (.ok place, opened) =>
    match render config p with
    | .error e => ⟨.error (.indent e), opened, []⟩
    | .ok text =>
      ⟨.ok file, opened.putFile place (bytesOf text), [.classWritten file.display]⟩

end Export

end CestExport
