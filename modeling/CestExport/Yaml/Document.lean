import CestExport.Yaml.Graph
import CestExport.Yaml.Token.Stream

/-!
# Documents

A text holds at most one document.  Its nodes are found from the tokens in order;
a node may be given a name, by which later places refer to it.  A collection has
its name before its parts are found, so they may refer to it.
-/

namespace CestExport.Yaml

/-- What handles of tags stand for. -/
abbrev Handles := List (String × String)

/-- The nodes that are found, and the numbers of those with names, the latest name first. -/
structure Draft where
  graph : Graph := {}
  names : List (String × Nat) := []

/-- A step that finds nodes. -/
abbrev Compose := StateT Draft Lex

/-- The handles that hold if directives say nothing else. -/
def standardHandles : Handles := [("!", "!"), ("!!", Tag.standardNames)]

/-- Fails at a place. -/
def failAt {α : Type} (m : Mark) : Compose α := throw (.misplaced m)

/-- Whether the next token is one of some kinds. -/
def isNext (kinds : List TokenKind) : Compose Bool := return kinds.contains (← peekToken).kind

/-! ## Properties -/

/-- What stands in front of a node: its name, the name of its tag, and where these begin. -/
structure Properties where
  anchor : Option String := none
  tag : Option String := none
  start : Option Mark := none

/-- The rest of a tag with each escape replaced by the character with its number. -/
def unescaped : List Char → List Char
  | '%' :: a :: b :: cs => Char.ofNat (hexValue [a, b]) :: unescaped cs
  | c :: cs => c :: unescaped cs
  | [] => []

/-- The name of a tag; `place` is reported if its handle stands for nothing. -/
def tagName (handles : Handles) (place : Mark) (handle : Option String) (suffix : String) :
    Compose String :=
  let rest := String.ofList (unescaped suffix.toList)
  match handle with
  | none => return rest
  | some h =>
    match handles.lookup h with
    | some beginning => return beginning ++ rest
    | none => failAt place

/-- Name and tag in front of a node, in either order. -/
def properties (handles : Handles) : Compose Properties := do
  let t ← peekToken
  match t.kind with
  | .anchor a =>
    let _ ← takeToken
    let u ← peekToken
    match u.kind with
    | .tag h s =>
      let _ ← takeToken
      return ⟨some a, some (← tagName handles u.start h s), some t.start⟩
    | _ => return ⟨some a, none, some t.start⟩
  | .tag h s =>
    let _ ← takeToken
    let u ← peekToken
    match u.kind with
    | .anchor a =>
      let _ ← takeToken
      return ⟨some a, some (← tagName handles u.start h s), some u.start⟩
    | _ => return ⟨none, some (← tagName handles t.start h s), some t.start⟩
  | _ => return {}

/-- The version of the text as far as it is known. -/
def version : Compose Version := return (← (get : Lex Lexer)).version

/-- The tag that the form of a plain scalar implies. -/
def plainTag (text : String) : Compose Tag := do
  let v ← version
  match Tag.ofPlain? v text with
  | some t => return t
  | none => throw (.version v)

/-- The tag of a scalar. -/
def scalarTag (name : Option String) (text : String) (plain : Bool) : Compose Tag :=
  match name with
  | none => if plain then plainTag text else return .text
  | some "!" => plainTag text
  | some n => return .ofName n

/-- The tag of a collection. -/
def collectionTag (name : Option String) (usual : Tag) : Tag :=
  match name with
  | none => usual
  | some "!" => usual
  | some n => .ofName n

/-- Adds a node, under its name if it has one. -/
def addNode (anchor : Option String) (n : Node) : Compose Nat := do
  let d ← get
  set { d with
    graph := d.graph.push n
    names := (anchor.map fun a => (a, d.graph.next)).toList ++ d.names }
  return d.graph.next

/-- Adds a scalar. -/
def addScalar (p : Properties) (start : Mark) (text : String) (plain : Bool) : Compose Nat := do
  addNode p.anchor ⟨← scalarTag p.tag text plain, start, .scalar text⟩

/-- Adds a scalar that is left out. -/
def addEmpty (m : Mark) : Compose Nat := addScalar {} m "" true

/-- Adds a sequence whose items are found by a step. -/
def addSequence (p : Properties) (start : Mark) (items : Compose (List Nat)) : Compose Nat := do
  let n ← addNode p.anchor ⟨collectionTag p.tag .list, start, .sequence []⟩
  let parts ← items
  modify fun d => { d with graph := d.graph.setContent n (.sequence parts) }
  return n

/-- Adds a mapping whose entries are found by a step. -/
def addMapping (p : Properties) (start : Mark) (entries : Compose (List (Nat × Nat))) :
    Compose Nat := do
  let n ← addNode p.anchor ⟨collectionTag p.tag .table, start, .mapping []⟩
  let parts ← entries
  modify fun d => { d with graph := d.graph.setContent n (.mapping parts) }
  return n

/-! ## Nodes -/

mutual

/-- A node.  Block collections may be allowed, and lists that are not indented. -/
def node (handles : Handles) (block indentless : Bool) : Nat → Compose Nat
  | 0 => do failAt (← peekToken).start
  | fuel + 1 => do
    let t ← peekToken
    match t.kind with
    | .reference name =>
      let _ ← takeToken
      match (← get).names.lookup name with
      | some n => return n
      | none => failAt t.start
    | _ =>
      let p ← properties handles
      content handles block indentless p fuel

/-- A node behind its properties. -/
def content (handles : Handles) (block indentless : Bool) (p : Properties) : Nat → Compose Nat
  | 0 => do failAt (← peekToken).start
  | fuel + 1 => do
    let t ← peekToken
    let start := p.start.getD t.start
    match t.kind, block, indentless with
    | .blockEntry, _, true => addSequence p start (indentlessItems handles fuel)
    | .scalar text plain, _, _ =>
      let _ ← takeToken
      addScalar p start text plain
    | .flowSequenceStart, _, _ =>
      let _ ← takeToken
      addSequence p start (flowItems handles true fuel)
    | .flowMappingStart, _, _ =>
      let _ ← takeToken
      addMapping p start (flowEntries handles true fuel)
    | .blockSequenceStart, true, _ =>
      let _ ← takeToken
      addSequence p start (blockItems handles fuel)
    | .blockMappingStart, true, _ =>
      let _ ← takeToken
      addMapping p start (blockEntries handles fuel)
    | _, _, _ =>
      if p.start.isSome then addScalar p start "" true else failAt t.start

/-- The items of an indented list. -/
def blockItems (handles : Handles) : Nat → Compose (List Nat)
  | 0 => do failAt (← peekToken).start
  | fuel + 1 => do
    let t ← peekToken
    match t.kind with
    | .blockEntry =>
      let _ ← takeToken
      let item ← (do
        if ← isNext [.blockEntry, .blockEnd] then addEmpty t.stop
        else node handles true false fuel)
      return item :: (← blockItems handles fuel)
    | .blockEnd =>
      let _ ← takeToken
      return []
    | _ => failAt t.start

/-- The items of a list that is indented as the mapping around it. -/
def indentlessItems (handles : Handles) : Nat → Compose (List Nat)
  | 0 => do failAt (← peekToken).start
  | fuel + 1 => do
    let t ← peekToken
    match t.kind with
    | .blockEntry =>
      let _ ← takeToken
      let item ← (do
        if ← isNext [.blockEntry, .key, .value, .blockEnd] then addEmpty t.stop
        else node handles true false fuel)
      return item :: (← indentlessItems handles fuel)
    | _ => return []

/-- The entries of an indented mapping; a key may be left out in later versions. -/
def blockEntries (handles : Handles) : Nat → Compose (List (Nat × Nat))
  | 0 => do failAt (← peekToken).start
  | fuel + 1 => do
    let t ← peekToken
    match t.kind with
    | .key =>
      let _ ← takeToken
      let key ← (do
        if ← isNext [.key, .value, .blockEnd] then addEmpty t.stop
        else node handles true true fuel)
      let value ← blockValue handles fuel
      return (key, value) :: (← blockEntries handles fuel)
    | .blockEnd =>
      let _ ← takeToken
      return []
    | kind =>
      if kind == .value && (← version).isLater then
        let key ← addEmpty t.start
        let value ← blockValue handles fuel
        return (key, value) :: (← blockEntries handles fuel)
      else failAt t.start

/-- The value of an entry of an indented mapping; one that is left out begins where the next token
ends. -/
def blockValue (handles : Handles) : Nat → Compose Nat
  | 0 => do failAt (← peekToken).start
  | fuel + 1 => do
    let t ← peekToken
    match t.kind with
    | .value =>
      let _ ← takeToken
      if ← isNext [.key, .value, .blockEnd] then addEmpty (← peekToken).stop
      else node handles true true fuel
    | _ => addEmpty t.start

/-- The items of a list in brackets up to its end; commas stand between them. -/
def flowItems (handles : Handles) (first : Bool) : Nat → Compose (List Nat)
  | 0 => do failAt (← peekToken).start
  | fuel + 1 => do
    let t ← peekToken
    if t.kind != .flowSequenceEnd && !first then
      if t.kind == .flowEntry then
        let _ ← takeToken
      else failAt t.start
    let t ← peekToken
    match t.kind with
    | .flowSequenceEnd =>
      let _ ← takeToken
      return []
    | .key =>
      let item ← addMapping {} t.start (flowPair handles fuel)
      return item :: (← flowItems handles false fuel)
    | _ =>
      let item ← node handles false false fuel
      return item :: (← flowItems handles false fuel)

/-- The only entry of a mapping without braces in a list. -/
def flowPair (handles : Handles) : Nat → Compose (List (Nat × Nat))
  | 0 => do failAt (← peekToken).start
  | fuel + 1 => do
    let t ← takeToken
    let key ← (do
      if ← isNext [.value, .flowEntry, .flowSequenceEnd] then addEmpty t.stop
      else node handles false false fuel)
    let value ← flowValue handles .flowSequenceEnd fuel
    return [(key, value)]

/-- The entries of a mapping in braces up to its end; commas stand between them. -/
def flowEntries (handles : Handles) (first : Bool) : Nat → Compose (List (Nat × Nat))
  | 0 => do failAt (← peekToken).start
  | fuel + 1 => do
    let t ← peekToken
    if t.kind != .flowMappingEnd && !first then
      if t.kind == .flowEntry then
        let _ ← takeToken
      else failAt t.start
    let t ← peekToken
    match t.kind with
    | .flowMappingEnd =>
      let _ ← takeToken
      return []
    | .key =>
      let _ ← takeToken
      let key ← (do
        if ← isNext [.value, .flowEntry, .flowMappingEnd] then addEmpty t.stop
        else node handles false false fuel)
      let value ← flowValue handles .flowMappingEnd fuel
      return (key, value) :: (← flowEntries handles false fuel)
    | kind =>
      if kind == .value && (← version).isLater then
        let key ← addEmpty t.stop
        let value ← flowValue handles .flowMappingEnd fuel
        return (key, value) :: (← flowEntries handles false fuel)
      else
        let key ← node handles false false fuel
        let value ← addEmpty (← peekToken).start
        return (key, value) :: (← flowEntries handles false fuel)

/-- The value of an entry between brackets; `close` is the bracket that may follow. -/
def flowValue (handles : Handles) (close : TokenKind) : Nat → Compose Nat
  | 0 => do failAt (← peekToken).start
  | fuel + 1 => do
    let t ← peekToken
    match t.kind with
    | .value =>
      let _ ← takeToken
      if ← isNext [.flowEntry, close] then addEmpty t.stop
      else node handles false false fuel
    | _ => addEmpty t.start

end

/-! ## Documents -/

/-- The handles that the directives in front of a document give. -/
def directiveHandles (version : Bool) (handles : Handles) : Nat → Compose Handles
  | 0 => return handles
  | fuel + 1 => do
    let t ← peekToken
    match t.kind with
    | .directive "YAML" (major :: _) =>
      let _ ← takeToken
      if version || Number.digitsValue major.toList != 1 then failAt t.start
      directiveHandles true handles fuel
    | .directive "TAG" [handle, beginning] =>
      let _ ← takeToken
      if (handles.lookup handle).isSome then failAt t.start
      directiveHandles version (handles ++ [(handle, beginning)]) fuel
    | .directive _ _ =>
      let _ ← takeToken
      directiveHandles version handles fuel
    | _ => return handles

/-- Passes over marks of the ends of documents. -/
def skipEnds : Nat → Compose Unit
  | 0 => return ()
  | fuel + 1 => do
    if ← isNext [.documentEnd] then
      let _ ← takeToken
      skipEnds fuel

/-- Directives and the mark of a document's beginning, if the text does not end here. -/
def documentHead (fuel : Nat) : Compose (Option (Handles × Mark)) := do
  skipEnds fuel
  if ← isNext [.streamEnd] then return none
  else
    let handles ← directiveHandles false [] fuel
    let t ← peekToken
    if t.kind != .documentStart then failAt t.start
    let _ ← takeToken
    return some (handles ++ standardHandles, t.start)

/-- Whether the next token begins a document with directives or a mark, or ends the text. -/
def isHeadNext : Compose Bool := do
  match (← peekToken).kind with
  | .directive _ _ => return true
  | .documentStart => return true
  | .streamEnd => return true
  | _ => return false

/-- The content of a document behind its head. -/
def documentContent (handles : Handles) (fuel : Nat) : Compose Nat := do
  let t ← peekToken
  let ends ← isHeadNext
  if ends || t.kind == .documentEnd then addEmpty t.start
  else node handles true false fuel

/-- Nothing may follow a document: another one is reported where it begins. -/
def documentEnd (fuel : Nat) : Compose Unit := do
  let t ← peekToken
  if t.kind == .documentEnd then
    let _ ← takeToken
    let u ← peekToken
    if u.kind != .streamEnd && u.start.line == t.stop.line then failAt u.start
    if !(← isHeadNext) then failAt u.start
  match ← documentHead fuel with
  | some (_, m) => failAt m
  | none => return ()

/-- The root of the only document of a text, or none if the text has none. -/
def document (fuel : Nat) : Compose (Option Nat) := do
  if ← isHeadNext then
    match ← documentHead fuel with
    | none => return none
    | some (handles, _) =>
      let n ← documentContent handles fuel
      documentEnd fuel
      return some n
  else
    let n ← node standardHandles true false fuel
    documentEnd fuel
    return some n

/-- A document: its nodes, the number of its root, and its version. -/
structure Document where
  graph : Graph
  root : Nat
  version : Version

/-- The document of a text, or none if the text has none. -/
def compose (s : String) : Except Error (Option Document) := do
  if s.toList.all isAllowed then
    let ((root, draft), lexer) ← ((document (8 * s.length + 16)).run {}).run (Lexer.ofText s)
    .ok (root.map fun n => ⟨draft.graph, n, lexer.version⟩)
  else .error .unprintable

end CestExport.Yaml
