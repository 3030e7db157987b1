/-!
# What a step generates

A step generates nothing, one statement, or a block of statements with levels.
A block may also shift the level of what follows it, which is how the parts of
a branch or a loop nest without knowing how deep they are.
-/

namespace CestExport

/-- A statement and its level. -/
structure Line where
  level : Int
  text : String
deriving DecidableEq, Repr

/-- Lines with levels relative to the surrounding one, which shifts by `before` in front of the
first line and by `after` behind the last. -/
structure Block where
  lines : List Line
  before : Int := 0
  after : Int := 0
deriving DecidableEq, Repr

/-- What a step generates. -/
inductive Emission
  | nothing
  | statement (text : String)
  | block (block : Block)
deriving DecidableEq, Repr

/-- An emission as a block. -/
def Emission.toBlock : Emission → Block
  | .nothing => ⟨[], 0, 0⟩
  | .statement text => ⟨[⟨0, text⟩], 0, 0⟩
  | .block b => b

/-- A method of the generated class besides the tests. -/
structure Method where
  name : String
  declaration : String
  lines : List Line
deriving DecidableEq, Repr

end CestExport
