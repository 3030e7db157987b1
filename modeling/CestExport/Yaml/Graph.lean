import CestExport.Yaml.Leaf

/-!
# Graphs of nodes

A document is a graph: its nodes are numbered in the order in which they begin,
and a collection names its parts by their numbers.  A node that is referred to
from several places is a part of each of them, and may be a part of itself.
-/

namespace CestExport.Yaml

/-- What a node holds. -/
inductive Content
  | scalar (text : String)
  | sequence (items : List Nat)
  | mapping (entries : List (Nat × Nat))
deriving DecidableEq, Repr

/-- A part of a document, with its tag and the place where it begins. -/
structure Node where
  tag : Tag
  start : Mark
  content : Content
deriving DecidableEq, Repr

/-- A scalar that stands for a number which no node has. -/
def Node.none : Node := ⟨.null, ⟨0, 0⟩, .scalar ""⟩

/-- The nodes of a document by number. -/
structure Graph where
  nodes : Array Node := #[]

namespace Graph

/-- The node with a number. -/
def node (g : Graph) (n : Nat) : Node := (g.nodes[n]?).getD .none

/-- The number of the next node. -/
def next (g : Graph) : Nat := g.nodes.size

/-- The graph with one more node. -/
def push (g : Graph) (n : Node) : Graph := ⟨g.nodes.push n⟩

/-- The graph with another tag of a node. -/
def setTag (g : Graph) (n : Nat) (t : Tag) : Graph :=
  ⟨g.nodes.modify n fun x => { x with tag := t }⟩

/-- The graph with another content of a node. -/
def setContent (g : Graph) (n : Nat) (c : Content) : Graph :=
  ⟨g.nodes.modify n fun x => { x with content := c }⟩

/-- The entries of a node, if it is a mapping. -/
def entries (g : Graph) (n : Nat) : List (Nat × Nat) :=
  match (g.node n).content with
  | .mapping es => es
  | _ => []

end Graph

end CestExport.Yaml
