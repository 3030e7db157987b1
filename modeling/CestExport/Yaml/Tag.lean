import CestExport.Data.Basic
import CestExport.Text.Cut

/-!
# Tags

A tag says what a part of a document stands for.
-/

namespace CestExport.Yaml

/-- What a part of a document stands for. -/
inductive Tag
  | null
  | bool
  | whole
  | real
  | text
  | bytes
  | time
  | list
  /-- A list whose items are single entries. -/
  | pairs
  | set
  | table
  /-- A table that is written as a list of single entries. -/
  | ordered
  /-- A key whose entry is a table to be merged. -/
  | merge
  /-- The mark of a default value, which is a text as a key. -/
  | default
  | unknown
deriving DecidableEq, Repr

namespace Tag

/-- The beginning of the names of standard tags. -/
def standardNames : String := "tag:yaml.org,2002:"

/-- The tag with a name. -/
def ofName (name : String) : Tag :=
  match Text.after? standardNames name with
  | some "null" => .null
  | some "bool" => .bool
  | some "int" => .whole
  | some "float" => .real
  | some "str" => .text
  | some "binary" => .bytes
  | some "timestamp" => .time
  | some "seq" => .list
  | some "pairs" => .pairs
  | some "set" => .set
  | some "map" => .table
  | some "omap" => .ordered
  | some "merge" => .merge
  | some "value" => .default
  | _ => .unknown

/-- The kind of collection that a tag asks for, if it asks for one. -/
def collection? : Tag → Option CollectionKind
  | list | pairs => some .list
  | set => some .set
  | table => some .table
  | ordered => some .ordered
  | _ => none

end Tag

end CestExport.Yaml
