import CestExport.Distinct
import CestExport.Php.Expression

/-!
# The variables of an export

The generated code assigns variables; the scope remembers which, in the order of
their first assignment.
-/

namespace CestExport

/-- The variables assigned so far, without repetition. -/
structure Scope where
  written : List String := []
deriving DecidableEq, Repr

namespace Scope

/-- The slot that holds the window handles known before a window opens. -/
def windowHandlesSlot : String := "windowHandles"

/-- The scope after an assignment to a variable. -/
def record (scope : Scope) (name : String) : Scope :=
  ⟨addNew scope.written name⟩

/-- The statement that assigns an expression to a variable. -/
def assignment (name expression : String) : String :=
  s!"{Php.read name} = {expression};"

/-- Assigns a variable; without a name there is no statement, and nothing to remember. -/
def write (scope : Scope) (name expression : String) : String × Scope :=
  if name = "" then ("", scope) else (assignment name expression, scope.record name)

end Scope

end CestExport
