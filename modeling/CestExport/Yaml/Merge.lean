import CestExport.Yaml.Graph

/-!
# Merging

The entry of a merge key gives the entries of one or several mappings to the
mapping around it.  Merged entries come before a mapping's own; of several merged
mappings the first comes last.  Merging changes the graph, so that a mapping is
merged only once however many places refer to it.
-/

namespace CestExport.Yaml

/-- A graph, and the entries that were merged into its mappings. -/
structure Merging where
  graph : Graph
  merged : List (Nat × List (Nat × Nat)) := []

/-- A step of merging. -/
abbrev Merge := StateT Merging (Except Error)

/-- The node with a number. -/
def mergeNode (n : Nat) : Merge Node := return (← get).graph.node n

/-- Gives a mapping other entries. -/
def setEntries (n : Nat) (es : List (Nat × Nat)) : Merge Unit :=
  modify fun m => { m with graph := m.graph.setContent n (.mapping es) }

/-- Ends the merging of a mapping that is given some entries. -/
def finishMerge (n : Nat) (given : List (Nat × Nat)) : Merge Unit := do
  if !given.isEmpty then
    let own := (← get).graph.entries n
    setEntries n (given ++ own)
    modify fun m => { m with merged := (n, given) :: m.merged }

mutual

/-- Merges into a mapping from one of its entries on; only one key may give entries. -/
def mergeFrom (n position : Nat) (given : List (Nat × Nat)) : Nat → Merge Unit
  | 0 => throw .endless
  | fuel + 1 => do
    let own := (← get).graph.entries n
    match own[position]? with
    | none => finishMerge n given
    | some (k, v) =>
      let key ← mergeNode k
      match key.tag with
      | .merge =>
        if !given.isEmpty then throw (.misplaced key.start)
        setEntries n (own.eraseIdx position)
        mergeFrom n position (← mergeSources v fuel) fuel
      | .default =>
        modify fun m => { m with graph := m.graph.setTag k .text }
        mergeFrom n (position + 1) given fuel
      | _ => mergeFrom n (position + 1) given fuel

/-- The entries that the value of a merge key gives. -/
def mergeSources (v : Nat) : Nat → Merge (List (Nat × Nat))
  | 0 => throw .endless
  | fuel + 1 => do
    match (← mergeNode v).content with
    | .sequence items =>
      let sources ← items.mapM fun i => mergeSource i fuel
      return sources.reverse.flatten
    | _ => mergeSource v fuel

/-- The entries of a mapping, after merging into it. -/
def mergeSource (v : Nat) : Nat → Merge (List (Nat × Nat))
  | 0 => throw .endless
  | fuel + 1 => do
    let source ← mergeNode v
    match source.content with
    | .mapping _ =>
      mergeFrom v 0 [] fuel
      return (← get).graph.entries v
    | _ => throw (.misplaced source.start)

end

end CestExport.Yaml
