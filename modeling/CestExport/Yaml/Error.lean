import CestExport.Text.Quoted

/-!
# Why a YAML text is not read

A text is refused where it breaks a rule, or since a value in it cannot be made.
-/

namespace CestExport.Yaml

/-- A place in the text, counted from zero. -/
structure Mark where
  line : Nat
  column : Nat
deriving DecidableEq, Repr

/-- A version of YAML, as a directive gives it. -/
structure Version where
  major : Nat
  minor : Nat
deriving DecidableEq, Repr

/-- Why a text is not read. -/
inductive Error
  /-- The text breaks a rule at a place. -/
  | misplaced (mark : Mark)
  /-- The text holds a character that is not allowed anywhere. -/
  | unprintable
  /-- A block scalar begins with a blank line that is indented less than a later line. -/
  | unevenIndent
  /-- A scalar cannot be turned into a value. -/
  | value (message : String)
  /-- A scalar stands for a value beyond all bounds. -/
  | bounds (message : String)
  /-- A number has no characters. -/
  | noDigits
  /-- A word that has to be a truth value is none. -/
  | truth (word : String)
  /-- Plain scalars have no meaning in a version. -/
  | version (v : Version)
  /-- A key holds a collection. -/
  | collectionKey (collection : String)
  /-- A key stands twice in an ordered table. -/
  | repeatedKey
  /-- A scalar is its own default value. -/
  | endless
deriving DecidableEq, Repr

namespace Error

/-- The text of an error. -/
def message : Error → String
  | misplaced m => s!"not allowed at line {m.line + 1}, column {m.column + 1}"
  | unprintable => "special characters are not allowed"
  | unevenIndent => "more indented follow up line than first in a block scalar"
  | value text => text
  | bounds text => text
  | noDigits => "string index out of range"
  | truth word => Text.quoted word
  | version v => s!"({v.major}, {v.minor})"
  | collectionKey collection => s!"unhashable type: '{collection}'"
  | repeatedKey => ""
  | endless => "maximum recursion depth exceeded"

/-- Whether an error is one of the text and not of a value in it. -/
def isSyntax : Error → Bool
  | misplaced _ | unprintable | unevenIndent => true
  | _ => false

end Error

end CestExport.Yaml
