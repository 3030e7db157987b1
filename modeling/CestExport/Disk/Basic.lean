import CestExport.Disk.Path
import CestExport.Text.Quoted

/-!
# Files and directories

The files and directories are a value: writing gives a new one.  Operations on it
fail for the causes that a file system has, and the cause that is met first on the
way along a path is the one reported.

    (d.putFile p c).files.lookup q = if q = p then some c else d.files.lookup q
                                                                      (lookup_putFile)
-/

namespace CestExport

/-- Why a file or directory cannot be used. -/
inductive DiskFault
  | missing
  | alreadyThere
  | notDirectory
  | isDirectory
  | longName
deriving DecidableEq, Repr

/-- The number of a fault. -/
def DiskFault.code : DiskFault → Nat
  | missing => 2
  | alreadyThere => 17
  | notDirectory => 20
  | isDirectory => 21
  | longName => 36

/-- The text of a fault. -/
def DiskFault.text : DiskFault → String
  | missing => "No such file or directory"
  | alreadyThere => "File exists"
  | notDirectory => "Not a directory"
  | isDirectory => "Is a directory"
  | longName => "File name too long"

/-- A fault and the path that was to be used. -/
structure DiskError where
  fault : DiskFault
  path : Path
deriving DecidableEq, Repr

/-- The text of an error. -/
def DiskError.message (e : DiskError) : String :=
  s!"[Errno {e.fault.code}] {e.fault.text}: {Text.quoted e.path.display}"

/-- The content of a file. -/
abbrev Bytes := List UInt8

/-- What stands at a place. -/
inductive Entry
  | directory
  | file (content : Bytes)

/-- Files and empty directories, by the names that lead to them from the root. -/
structure Disk where
  /-- The working directory. -/
  here : List String := []
  files : List (List String × Bytes) := []
  directories : List (List String) := []

namespace Disk

/-- The longest name of a file in bytes. -/
def nameLimit : Nat := 255

/-- Whether a file lies below a place. -/
def leadsTo (place file : List String) : Bool :=
  place.isPrefixOf file && place.length < file.length

/-- What stands at a place. -/
def entry? (d : Disk) (place : List String) : Option Entry :=
  match d.files.lookup place with
  | some content => some (.file content)
  | none =>
    if place.isPrefixOf d.here || d.directories.any place.isPrefixOf ||
        d.files.any (leadsTo place ·.1) then
      some .directory
    else none

/-- Follows names from a place on.  Each has to stand in a directory; the last one need not be
there. -/
def follow (d : Disk) : List String → List String → Except DiskFault (List String)
  | place, [] => .ok place
  | place, name :: names =>
    match d.entry? place with
    | none => .error .missing
    | some (.file _) => .error .notDirectory
    | some .directory =>
      if nameLimit < name.utf8ByteSize then .error .longName
      else d.follow (if name = ".." then place.dropLast else place ++ [name]) names

/-- The place that a path leads to. -/
def place (d : Disk) (p : Path) : Except DiskFault (List String) :=
  d.follow (if p.root = "" then d.here else []) p.parts

/-- What a path leads to, if anything. -/
def find (d : Disk) (p : Path) : Except DiskError (Option Entry) :=
  match d.place p with
  | .ok place => .ok (d.entry? place)
  | .error .missing => .ok none
  | .error .notDirectory => .ok none
  | .error fault => .error ⟨fault, p⟩

/-- Whether a path leads to a directory. -/
def isDirectory (d : Disk) (p : Path) : Bool :=
  match d.find p with
  | .ok (some .directory) => true
  | _ => false

/-- The content of a file. -/
def read (d : Disk) (p : Path) : Except DiskError Bytes :=
  match d.place p with
  | .error fault => .error ⟨fault, p⟩
  | .ok place =>
    match d.entry? place with
    | some (.file content) => .ok content
    | some .directory => .error ⟨.isDirectory, p⟩
    | none => .error ⟨.missing, p⟩

/-- Gives the file at a place a content. -/
def putFile (d : Disk) (place : List String) (content : Bytes) : Disk :=
  if (d.files.lookup place).isSome then
    { d with files := d.files.map fun f => if f.1 = place then (place, content) else f }
  else { d with files := d.files ++ [(place, content)] }

/-- The place of a file that can be written, which may be there already. -/
def filePlace (d : Disk) (p : Path) : Except DiskError (List String) :=
  match d.place p with
  | .error fault => .error ⟨fault, p⟩
  | .ok place =>
    match d.entry? place with
    | some .directory => .error ⟨.isDirectory, p⟩
    | _ => .ok place

/-- Makes a directory; nothing may be there already. -/
def makeDirectory (d : Disk) (p : Path) : Except DiskError Disk :=
  match d.place p with
  | .error fault => .error ⟨fault, p⟩
  | .ok place =>
    match d.entry? place with
    | some _ => .error ⟨.alreadyThere, p⟩
    | none => .ok { d with directories := d.directories ++ [place] }

/-- Makes a directory unless it is there already. -/
def ensureDirectory (d : Disk) (p : Path) : Except DiskError Disk :=
  match d.makeDirectory p with
  | .ok d => .ok d
  | .error e => if d.isDirectory p then .ok d else .error e

/-- Makes a directory and those around it unless they are there already; those that were made stay
if another one cannot be made. -/
def ensureDirectories (d : Disk) (p : Path) : Except DiskError Unit × Disk :=
  match d.makeDirectory p with
  | .ok d => (.ok (), d)
  | .error e =>
    if e.fault = .missing ∧ p.parts ≠ [] then
      match d.ensureDirectories p.parent with
      | (.error e, d) => (.error e, d)
      | (.ok _, d) =>
        match d.ensureDirectory p with
        | .ok d => (.ok (), d)
        | .error e => (.error e, d)
    else if d.isDirectory p then (.ok (), d)
    else (.error e, d)
termination_by p.parts.length
decreasing_by
  rename_i h
  have := List.length_pos_iff.2 h.2
  simp only [Path.parent, List.length_dropLast]
  omega

/-! ## Lemmas -/

theorem lookup_replace (files : List (List String × Bytes)) (p q : List String) (c : Bytes)
    (h : (files.lookup p).isSome) :
    (files.map fun f => if f.1 = p then (p, c) else f).lookup q =
      if q = p then some c else files.lookup q := by
  induction files with
  | nil => simp at h
  | cons f fs ih =>
    obtain ⟨name, content⟩ := f
    by_cases hn : name = p
    · subst hn
      by_cases hq : q = name
      · simp [hq]
      · have hfs : (fs.map fun f => if f.1 = name then (name, c) else f).lookup q =
            fs.lookup q := by
          clear ih h
          induction fs with
          | nil => rfl
          | cons g gs ih =>
            obtain ⟨n, b⟩ := g
            by_cases hg : n = name
            · subst hg
              simp [List.lookup_cons, ih, beq_eq_false_iff_ne.2 hq]
            · simp [List.lookup_cons, ih, hg]
        simp [List.lookup_cons, hfs, hq, beq_eq_false_iff_ne.2 hq]
    · have hs : (fs.lookup p).isSome := by
        simpa [List.lookup_cons, beq_eq_false_iff_ne.2 (Ne.symm hn)] using h
      simp only [List.map_cons, hn, if_false, List.lookup_cons, ih hs]
      by_cases hq : q = name
      · simp [hq, hn]
      · simp [beq_eq_false_iff_ne.2 hq]

theorem lookup_append_new (files : List (List String × Bytes)) (p q : List String) (c : Bytes)
    (h : files.lookup p = none) :
    (files ++ [(p, c)]).lookup q = if q = p then some c else files.lookup q := by
  induction files with
  | nil =>
    by_cases hq : q = p
    · simp [hq]
    · simp [List.lookup_cons, hq, beq_eq_false_iff_ne.2 hq]
  | cons f fs ih =>
    obtain ⟨name, content⟩ := f
    have hn : p ≠ name := by
      intro hp
      simp [hp] at h
    have hs : fs.lookup p = none := by
      simpa [List.lookup_cons, beq_eq_false_iff_ne.2 hn] using h
    simp only [List.cons_append, List.lookup_cons, ih hs]
    by_cases hq : q = name
    · simp [hq, Ne.symm hn]
    · simp [beq_eq_false_iff_ne.2 hq]

/-- Only the file at the place changes. -/
theorem lookup_putFile (d : Disk) (p q : List String) (c : Bytes) :
    (d.putFile p c).files.lookup q = if q = p then some c else d.files.lookup q := by
  unfold putFile
  split
  next h => exact lookup_replace d.files p q c h
  next h => exact lookup_append_new d.files p q c (Option.not_isSome_iff_eq_none.1 h)

end Disk

end CestExport
