import CestExport.Yaml.Document
import CestExport.Yaml.Merge

/-!
# Reading documents

The value of each node is made once, however many places refer to it.  A
collection is empty at first and waits to be filled in a later round, so that it
may be a part of itself.  A key has to be whole at once: the collections in it
are filled without waiting, and one that is met again inside itself counts as
nothing there.  The first fault in this order is reported.
-/

namespace CestExport.Yaml

/-- A value while its document is read; a collection goes by the number of its node. -/
inductive Part
  | leaf (d : Data)
  | pair (first second : Part)
  | node (n : Nat)

/-- What a collection is filled with. -/
inductive Filling
  | items (parts : List Part)
  | entries (parts : List (Data × Part))

/-- A document while it is read. -/
structure Reading where
  version : Version
  merging : Merging
  /-- The values that are made, by node. -/
  parts : Array (Option Part)
  /-- The fillings of collections, by node. -/
  fillings : Array Filling
  /-- The nodes whose values are being made. -/
  begun : List Nat := []
  /-- The collections that wait to be filled, the latest first. -/
  waiting : List Nat := []
  /-- Whether collections are filled without waiting. -/
  atOnce : Bool := false

/-- A step of reading. -/
abbrev Read := StateT Reading (Except Error)

namespace Reading

/-- The node with a number. -/
def node (r : Reading) (n : Nat) : Node := r.merging.graph.node n

/-- The filling of a collection. -/
def filling (r : Reading) (n : Nat) : Filling := (r.fillings[n]?).getD (.items [])

/-- The kind of collection that a node asks for. -/
def kind (r : Reading) (n : Nat) : CollectionKind :=
  (r.node n).tag.collection?.getD .list

end Reading

/-- The node with a number. -/
def readNode (n : Nat) : Read Node := return (← get).node n

/-- Fills a collection. -/
def setFilling (n : Nat) (f : Filling) : Read Unit :=
  modify fun r => { r with fillings := r.fillings.setIfInBounds n f }

/-! ## Scalars -/

/-- The text of a scalar, or of the default value of a mapping. -/
def textOf (n : Nat) : Nat → Read String
  | 0 => throw .endless
  | fuel + 1 => do
    let r ← get
    let x := r.node n
    match x.content with
    | .scalar s => return s
    | .mapping es =>
      match es.find? fun e => (r.node e.1).tag == .default with
      | some (_, v) => textOf v fuel
      | none => throw (.misplaced x.start)
    | .sequence _ => throw (.misplaced x.start)

/-- The value of a node that is no collection; a timestamp has no default value. -/
def readLeaf (n fuel : Nat) : Read Data := do
  let x ← readNode n
  let v := (← get).version
  match x.tag, x.content with
  | .merge, _ | .default, _ | .unknown, _ => throw (.misplaced x.start)
  | .time, .sequence _ | .time, .mapping _ => throw (.misplaced x.start)
  | t, _ =>
    let s ← textOf n fuel
    match t.read v x.start s with
    | .ok d => return d
    | .error e => throw e

/-! ## Keys -/

/-- The name of a kind of collection. -/
def collectionName : CollectionKind → String
  | .list => "list"
  | .set => "set"
  | .table => "dict"
  | .ordered => "ordereddict"

/-- A value inside a key, which may hold no collection. -/
def insideKey (r : Reading) : Part → Except Error Data
  | .leaf d => .ok d
  | .pair a b => do
    let first ← insideKey r a
    let second ← insideKey r b
    .ok (.tuple [first, second])
  | .node n => .error (.collectionKey (collectionName (r.kind n)))

/-- A value as a key: a list becomes a tuple of its items. -/
def keyOf (r : Reading) : Part → Except Error Data
  | .node n =>
    match r.kind n, r.filling n with
    | .list, .items ps => (ps.mapM (insideKey r)).map .tuple
    | k, _ => .error (.collectionKey (collectionName k))
  | p => insideKey r p

/-- Whether a value may stand as a key, before its parts are looked at. -/
def mayBeKey (r : Reading) : Part → Bool
  | .node n => r.kind n == .list
  | _ => true

/-! ## Collections -/

/-- Merges into a mapping. -/
def mergeInto (n fuel : Nat) : Read Unit := do
  let r ← get
  match (mergeFrom n 0 [] fuel).run r.merging with
  | .ok (_, m) => set { r with merging := m }
  | .error e => throw e

/-- The only entry of a node in a list of entries. -/
def onlyEntry (n : Nat) : Read (Nat × Nat) := do
  let x ← readNode n
  match x.content with
  | .mapping [e] => return e
  | _ => throw (.misplaced x.start)

mutual

/-- The value of a node; `whole` asks for all that is in it. -/
def make (whole : Bool) (n : Nat) : Nat → Read Part
  | 0 => throw .endless
  | fuel + 1 => do
    let before ← get
    match (before.parts[n]?).join with
    | some p => return p
    | none =>
      if whole then modify fun r => { r with atOnce := true }
      if before.begun.contains n then return .leaf .null
      modify fun r => { r with begun := n :: r.begun }
      let p ← begin n fuel
      modify fun r => { r with
        parts := r.parts.setIfInBounds n (some p)
        begun := r.begun.erase n
        atOnce := if whole then before.atOnce else r.atOnce }
      return p
termination_by structural fuel => fuel

/-- Begins the value of a node; a collection may have to wait for what is in it. -/
def begin (n : Nat) : Nat → Read Part
  | 0 => throw .endless
  | fuel + 1 => do
    if (← readNode n).tag.collection?.isSome then
      if (← get).atOnce then fill n fuel
      else modify fun r => { r with waiting := n :: r.waiting }
      return .node n
    else return .leaf (← readLeaf n fuel)
termination_by structural fuel => fuel

/-- Finds what is in a collection. -/
def fill (n : Nat) : Nat → Read Unit
  | 0 => throw .endless
  | fuel + 1 => do
    let x ← readNode n
    match x.tag, x.content with
    | .list, .sequence items =>
      setFilling n (.items (← items.mapM fun i => make false i fuel))
    | .pairs, .sequence items =>
      setFilling n (.items (← items.mapM fun i => do
        let (k, v) ← onlyEntry i
        return .pair (← make false k fuel) (← make false v fuel)))
    | .ordered, .sequence items =>
      setFilling n (.entries (← items.foldlM (fun es i => orderedEntry es i fuel) []))
    | .table, .mapping _ | .set, .mapping _ =>
      mergeInto n fuel
      let m := (← get).merging
      match m.merged.lookup n with
      | none =>
        setFilling n (.entries (← (m.graph.entries n).foldlM (fun es e => entry true es e fuel) []))
      | some given =>
        setFilling n (.entries (←
          (given ++ m.graph.entries n).foldlM (fun es e => entry false es e fuel) []))
    | _, _ => throw (.misplaced x.start)
termination_by structural fuel => fuel

/-- Adds an entry to those of a table; it may be required to have a key of its own. -/
def entry (unique : Bool) (es : List (Data × Part)) (e : Nat × Nat) :
    Nat → Read (List (Data × Part))
  | 0 => throw .endless
  | fuel + 1 => do
    let start := (← readNode e.1).start
    let key ← make true e.1 fuel
    if !mayBeKey (← get) key then throw (.misplaced start)
    let snapshot := keyOf (← get) key
    let value ← make false e.2 fuel
    match snapshot with
    | .error error => throw error
    | .ok k =>
      if unique && es.any fun x => Data.same k x.1 then throw (.misplaced start)
      return Data.put k value es
termination_by structural fuel => fuel

/-- Adds an entry to those of an ordered table, where a list is no key. -/
def orderedEntry (es : List (Data × Part)) (i : Nat) : Nat → Read (List (Data × Part))
  | 0 => throw .endless
  | fuel + 1 => do
    let (k, v) ← onlyEntry i
    let key ← make false k fuel
    match insideKey (← get) key with
    | .error error => throw error
    | .ok d =>
      if es.any fun x => Data.same d x.1 then throw .repeatedKey
      return es ++ [(d, ← make false v fuel)]
termination_by structural fuel => fuel

end

/-- Fills the collections that wait, round by round. -/
def rounds (depth : Nat) : Nat → Read Unit
  | 0 => throw .endless
  | fuel + 1 => do
    let r ← get
    if !r.waiting.isEmpty then
      set { r with waiting := [] }
      r.waiting.reverse.forM fun n => fill n depth
      rounds depth fuel

/-! ## Values -/

/-- A collection of a kind. -/
def collectionOf (k : CollectionKind) (items : List Data) (entries : List (Data × Data)) : Data :=
  match k with
  | .list => .list items
  | .set => .set (Data.inSetOrder (entries.map (·.1)))
  | .table => .table entries
  | .ordered => .ordered entries

/-- A collection under the number of its node, if it holds itself. -/
def closed (n : Nat) (d : Data) : Data :=
  if d.labels.isEmpty then d else .loop n d

/-- A value when everything is filled, inside the collections of some nodes. -/
def assemble (r : Reading) : Nat → List Nat → Part → Data
  | 0, _, _ => .null
  | _ + 1, _, .leaf d => d
  | fuel + 1, around, .pair a b =>
    .tuple [assemble r fuel around a, assemble r fuel around b]
  | fuel + 1, around, .node n =>
    if around.contains n then .again n (r.kind n)
    else
      let value := assemble r fuel (n :: around)
      match r.filling n with
      | .items ps => closed n (collectionOf (r.kind n) (ps.map value) [])
      | .entries ps => closed n (collectionOf (r.kind n) [] (ps.map fun e => (e.1, value e.2)))

/-- The value of a document. -/
def Document.value (d : Document) : Except Error Data := do
  let size := d.graph.next
  let depth := 16 * (size + 4) * (size + 4)
  let start : Reading := {
    version := d.version
    merging := ⟨d.graph, []⟩
    parts := Array.replicate size none
    fillings := Array.replicate size (.items []) }
  let (p, r) ← (do
    let p ← make false d.root depth
    rounds depth (size + 2)
    return p).run start
  .ok (assemble r (2 * size + 4) [] p)

/-- The value of a text; a text without a document is null. -/
def read (s : String) : Except Error Data := do
  match ← compose s with
  | none => .ok .null
  | some d => d.value

end CestExport.Yaml
