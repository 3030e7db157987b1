import CestExport.Yaml.Error

/-!
# Versions of YAML

The rules for scalars depend on the version that a text's directive gives.  Two
versions have rules: 1.1, and 1.2, which holds if there is no directive.
-/

namespace CestExport.Yaml

namespace Version

/-- The version whose plain scalars include `yes` and numbers in base sixty. -/
def early : Version := ⟨1, 1⟩

/-- The version that holds without a directive. -/
def usual : Version := ⟨1, 2⟩

/-- Whether a version comes after 1.1. -/
def isLater (v : Version) : Bool := 1 < v.major || (v.major == 1 && 1 < v.minor)

end Version

end CestExport.Yaml
