import CestExport.Text.Cut

/-!
# Paths

A path leads over names, from the working directory or from a root.  Empty names
and single points lead nowhere and are left out.
-/

namespace CestExport

/-- A path. -/
structure Path where
  /-- One or two slashes, or nothing. -/
  root : String := ""
  parts : List String := []
deriving DecidableEq, Repr

namespace Path

/-- The root of a path: just two slashes at the beginning are kept. -/
def rootOf : List Char → String
  | '/' :: '/' :: '/' :: _ => "/"
  | '/' :: '/' :: _ => "//"
  | '/' :: _ => "/"
  | _ => ""

/-- Whether a name leads anywhere. -/
def leads (name : String) : Bool := name != "" && name != "."

/-- The path that a text writes. -/
def ofText (s : String) : Path :=
  ⟨rootOf s.toList, (Text.split (· == '/') s).filter leads⟩

/-- The text of a path. -/
def display (p : Path) : String :=
  if p.root = "" ∧ p.parts = [] then "." else p.root ++ "/".intercalate p.parts

/-- The path to a name in a directory. -/
def child (p : Path) (name : String) : Path := { p with parts := p.parts ++ [name] }

/-- The path without its last name. -/
def parent (p : Path) : Path := { p with parts := p.parts.dropLast }

/-- The last name of a path. -/
def name (p : Path) : String := (p.parts.getLast?).getD ""

/-- The end of the last name from its last point on; a point at an end of the name does not count. -/
def suffix (p : Path) : String :=
  match Text.cutLast '.' p.name with
  | some (front, back) => if front = "" ∨ back = "" then "" else "." ++ back
  | none => ""

end Path

end CestExport
