import CestExport.Tool.Run

/-!
# The command line

The tool itself works on a value that holds files and environment.  Here the files
that a request may use are read into it, and what the answer changes is written
back.
-/

namespace CestExport.Tool

/-- The paths that a request may use. -/
def Request.paths : Request → List Path
  | .exporting r => [r.project, r.settings.getD usualSettingsFile, r.output]
  | .linting p => [p]
  | .validating p => [p]
  | .starting p => [p, p.child usualSettingsFile.name]
  | .listing | .help => []

/-- The names from the root along a path, and those of all places on the way. -/
def waypoints (here : List String) (p : Path) : List (List String) :=
  let names := if p.root = "" then here ++ p.parts else p.parts
  (List.range (names.length + 1)).map names.take

/-- The path from the root to a place, as a text. -/
def placeText (place : List String) : String := (absolute place).display

/-- What stands at a place of the file system. -/
def entryAt (place : List String) : IO (Option Entry) := do
  try
    return some (.file (← IO.FS.readBinFile (placeText place)).toList)
  catch
    | .inappropriateType _ 21 _ => return some .directory
    | _ => return none

/-- The files and directories that a request may use. -/
def diskFor (request : Request) : IO Disk := do
  let here := (Path.ofText (← IO.currentDir).toString).parts
  let mut disk : Disk := { here := here }
  for place in (request.paths.flatMap (waypoints here)).eraseDups do
    match ← entryAt place with
    | some .directory => disk := { disk with directories := disk.directories ++ [place] }
    | some (.file content) => disk := { disk with files := disk.files ++ [(place, content)] }
    | none => pure ()
  return disk

/-- Writes what has changed between two states of the files. -/
def applyChanges (old new : Disk) : IO Unit := do
  for place in new.directories do
    if !old.directories.contains place then IO.FS.createDirAll (placeText place)
  for (place, content) in new.files do
    if old.files.lookup place != some content then
      IO.FS.writeBinFile (placeText place) ⟨content.toArray⟩

/-- The variables of the environment that give settings. -/
def environmentVariables : IO (List (String × String)) := do
  let mut found := []
  for name in Setting.all.filterMap (·.environmentName?) do
    match ← IO.getEnv name with
    | some value => found := found ++ [(name, value)]
    | none => pure ()
  return found

/-- Writes an answer and gives its exit code. -/
def deliver (old : Disk) (reply : Reply) : IO UInt32 := do
  applyChanges old reply.disk
  (← IO.getStderr).putStr (textOf reply.errors)
  (← IO.getStdout).putStr (textOf reply.output)
  return reply.exitCode.toUInt32

end CestExport.Tool

open CestExport.Tool in
/-- Answers the arguments of the command line. -/
def main (arguments : List String) : IO UInt32 := do
  match Request.ofArguments arguments with
  | .error e => deliver {} (refusal ⟨{}, []⟩ e)
  | .ok request =>
    let disk ← diskFor request
    deliver disk (run ⟨disk, ← environmentVariables⟩ request)
