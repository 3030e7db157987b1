import CestExport.Number.Whole
import CestExport.Text.Utf8
import CestExport.Yaml.Token.Scalar

/-!
# The token stream of YAML

Tokens are found as they are asked for.  A key without a mark of its own is only
recognized by the colon behind it, so a token that may begin one is held back
until that is settled.
-/

namespace CestExport.Yaml

/-! ## Indentation and keys -/

/-- Adds a token at the end of the queue. -/
def push (t : Token) : Lex Unit := modify fun l => { l with tokens := l.tokens ++ [t] }

/-- Adds a token without extent. -/
def pushHere (k : TokenKind) : Lex Unit := do
  let m := (← get).mark
  push ⟨k, m, m⟩

/-- Adds the token of `n` characters. -/
def pushChars (k : TokenKind) (n : Nat) : Lex Unit := do
  let m := (← get).mark
  skip n
  push ⟨k, m, (← get).mark⟩

/-- Ends the blocks that are indented more than a column. -/
def unwindTo (column : Int) : List Int → Lex Unit
  | [] => return ()
  | outer :: rest => do
    let l ← get
    if column < l.indent then
      set { l with indent := outer, indents := rest }
      pushHere .blockEnd
      unwindTo column rest

/-- Ends the blocks that are indented more than a column, outside brackets. -/
def unwind (column : Int) : Lex Unit := do
  let l ← get
  if !l.inFlow then unwindTo column l.indents

/-- Begins a block at a column if that is indented more; tells whether it is. -/
def addIndent (column : Nat) : Lex Bool := do
  let l ← get
  if l.indent < column then
    set { l with indent := column, indents := l.indent :: l.indents }
    return true
  else return false

/-- The place where a key may begin, between the innermost open brackets. -/
def currentKey? (l : Lexer) : Option SimpleKey := l.keys.lookup l.flow.length

/-- Forgets where a key may begin, between the innermost open brackets. -/
def dropKey (l : Lexer) : Lexer :=
  { l with keys := l.keys.filter (·.1 != l.flow.length) }

/-- Gives up a key, which is an error if the indentation requires one. -/
def removeKey : Lex Unit := do
  let l ← get
  match currentKey? l with
  | some k => if k.required then failHere else set (dropKey l)
  | none => return ()

/-- Notes that a key may begin here. -/
def saveKey : Lex Unit := do
  let l ← get
  if l.keyAllowed then
    removeKey
    let l ← get
    let key : SimpleKey := {
      number := l.taken + l.tokens.length
      required := !l.inFlow && l.indent == (l.mark.column : Int)
      index := l.index
      mark := l.mark }
    set { l with keys := l.keys ++ [(l.flow.length, key)] }

/-- A key has to stand on one line and may not be too long. -/
def isStale (l : Lexer) (k : SimpleKey) : Bool :=
  k.mark.line != l.mark.line || 1024 < l.index - k.index

/-- Gives up the keys that are stale. -/
def dropStale : Lex Unit := do
  let l ← get
  if l.keys.any fun k => isStale l k.2 && k.2.required then failHere
  set { l with keys := l.keys.filter fun k => !isStale l k.2 }

/-- Allows or forbids a key at the next token. -/
def allowKey (b : Bool) : Lex Unit := modify fun l => { l with keyAllowed := b }

/-! ## Tokens other than scalars -/

/-- Skips blanks, comments and line breaks. -/
def skipToToken : Nat → Lex Unit
  | 0 => return ()
  | fuel + 1 => do
    let flow := (← get).inFlow
    skipWhile fun c => c == ' ' || (flow && c == '\t')
    if (← next) == '#' then skipWhile fun c => !isEnd c
    let b ← lineBreak
    if b.isEmpty then return ()
    if !(← get).inFlow then allowKey true
    skipToToken fuel

/-- The end of the text ends all blocks. -/
def streamEnd : Lex Unit := do
  unwind (-1)
  removeKey
  modify fun l => { l with keyAllowed := false, keys := [], done := true }
  pushHere .streamEnd

/-- The mark of the beginning or the end of a document. -/
def documentMark (k : TokenKind) : Lex Unit := do
  unwind (-1)
  removeKey
  allowKey false
  pushChars k 3

/-- Characters of names in directives and tags. -/
def isNameChar (c : Char) : Bool := c.isAlphanum || c == '-' || c == '_'

/-- A number in a directive. -/
def directiveNumber : Lex String := do
  let ds ← takeChars? Char.isDigit
  if ds.isEmpty then failHere
  return String.ofList ds

/-- The version that a directive gives. -/
def versionArguments : Lex (List String) := do
  skipWhile (· == ' ')
  let major ← directiveNumber
  if (← next) != '.' then failHere
  skip 1
  let minor ← directiveNumber
  if !isSpaceOrBreak (← next) then failHere
  modify fun l => { l with
    version := ⟨Number.digitsValue major.toList, Number.digitsValue minor.toList⟩ }
  return [major, minor]

/-- The handle of a tag. -/
def tagHandle : Lex String := do
  let l ← get
  if l.peek 0 != '!' then failHere
  if l.peek 1 == ' ' then
    skip 1
    return "!"
  else
    let n := ((l.rest.drop 1).takeWhile isNameChar).length
    if l.peek (n + 1) != '!' then
      skip (n + 1)
      failHere
    return String.ofList (← takeChars (n + 2))

/-- Characters of the rest of a tag. -/
def isTagChar (later : Bool) (c : Char) : Bool :=
  c.isAlphanum || "-;/?:@&=+$,_.!~*'()[]%".toList.contains c || (later && c == '#')

/-- The bytes that escapes in a tag write. -/
def tagBytes : Nat → Lex (List UInt8)
  | 0 => return []
  | fuel + 1 => do
    if (← next) == '%' then
      skip 1
      let l ← get
      if (hexDigitValue? (l.peek 0)).isSome && (hexDigitValue? (l.peek 1)).isSome then
        let b := (hexValue (l.ahead 2)).toUInt8
        skip 2
        return b :: (← tagBytes fuel)
      else failHere
    else return []

/-- The stretches of the rest of a tag, with their escapes. -/
def tagStretches : Nat → Lex (List Char)
  | 0 => return []
  | fuel + 1 => do
    let later := (← get).version.isLater
    let cs ← takeChars? fun c => isTagChar later c && c != '%'
    if (← next) == '%' then
      let l ← get
      let bytes ← tagBytes fuel
      let escapes := l.ahead (3 * bytes.length)
      match Text.Utf8.decode bytes with
      | .ok _ => return cs ++ escapes ++ (← tagStretches fuel)
      | .error _ => throw (.misplaced l.mark)
    else return cs

/-- The rest of a tag. -/
def tagSuffix : Lex String := do
  let cs ← tagStretches ((← get).rest.length + 1)
  if cs.isEmpty then failHere
  return String.ofList cs

/-- The handle and the beginning that a directive gives to tags. -/
def tagArguments : Lex (List String) := do
  skipWhile (· == ' ')
  let handle ← tagHandle
  if (← next) != ' ' then failHere
  skipWhile (· == ' ')
  let start ← tagSuffix
  if !isSpaceOrBreak (← next) then failHere
  return [handle, start]

/-- The rest of a directive's line: nothing but blanks and a comment. -/
def directiveRest : Lex Unit := do
  skipWhile (· == ' ')
  if (← next) == '#' then skipWhile fun c => !isEnd c
  if !isEnd (← next) then failHere
  let _ ← lineBreak

/-- A directive. -/
def directive : Lex Unit := do
  unwind (-1)
  removeKey
  allowKey false
  let start := (← get).mark
  skip 1
  let name := String.ofList (← takeChars? fun c => isNameChar c || c == ':' || c == '.')
  if name = "" then failHere
  if !isSpaceOrBreak (← next) then failHere
  let arguments ← (match name with
    | "YAML" => versionArguments
    | "TAG" => tagArguments
    | _ => do
      skipWhile fun c => !isEnd c
      return [])
  let stop := (← get).mark
  directiveRest
  push ⟨.directive name arguments, start, stop⟩

/-- A bracket that opens. -/
def openBracket (f : Flow) (k : TokenKind) : Lex Unit := do
  saveKey
  modify fun l => { l with flow := f :: l.flow, keyAllowed := true }
  pushChars k 1

/-- A bracket that closes. -/
def closeBracket (k : TokenKind) : Lex Unit := do
  removeKey
  modify fun l => { l with flow := l.flow.tail, keyAllowed := false }
  pushChars k 1

/-- A comma between brackets. -/
def flowEntry : Lex Unit := do
  allowKey true
  removeKey
  pushChars .flowEntry 1

/-- Begins a block collection here unless it is indented as the current one. -/
def beginBlock (k : TokenKind) : Lex Unit := do
  let l ← get
  if !l.inFlow then
    if !l.keyAllowed then failHere
    if ← addIndent l.mark.column then pushHere k

/-- The dash of a list. -/
def blockEntry : Lex Unit := do
  beginBlock .blockSequenceStart
  allowKey true
  removeKey
  pushChars .blockEntry 1

/-- The mark of a key. -/
def explicitKey : Lex Unit := do
  beginBlock .blockMappingStart
  allowKey (!(← get).inFlow)
  removeKey
  pushChars .key 1

/-- Puts a token in front of the one with a number. -/
def insertAt (number : Nat) (t : Token) : Lex Unit :=
  modify fun l => { l with
    tokens := l.tokens.take (number - l.taken) ++ t :: l.tokens.drop (number - l.taken) }

/-- The colon behind a key. -/
def valueMark : Lex Unit := do
  let l ← get
  match currentKey? l with
  | some k =>
    set (dropKey l)
    insertAt k.number ⟨.key, k.mark, k.mark⟩
    if !l.inFlow then
      if ← addIndent k.mark.column then
        insertAt k.number ⟨.blockMappingStart, k.mark, k.mark⟩
    allowKey false
  | none =>
    beginBlock .blockMappingStart
    allowKey (!l.inFlow)
    removeKey
  pushChars .value 1

/-- Characters of the names of anchors. -/
def isAnchorChar (c : Char) : Bool :=
  let n := c.toNat
  !(c == ',' || c == '[' || c == ']' || c == '\x7b' || c == '\x7d') &&
    ((0x21 ≤ n && n ≤ 0x7E) || (0xA0 ≤ n && n ≤ 0xD7FF) ||
      (0xE000 ≤ n && n ≤ 0xFFFD && n != 0xFEFF) || 0x10000 ≤ n)

/-- An anchor or a reference to one. -/
def anchor (make : String → TokenKind) : Lex Unit := do
  saveKey
  allowKey false
  let start := (← get).mark
  skip 1
  let name := String.ofList (← takeChars? isAnchorChar)
  if name = "" then failHere
  let c ← next
  if !(isSpaceOrBreak c || c == '\t' || "?:,[]%@".toList.contains c || c == '\x7b' ||
      c == '\x7d' || c == '\x60') then failHere
  push ⟨make name, start, (← get).mark⟩

/-- Handle and rest of a tag; a second mark at its beginning is its handle if it has no other. -/
def tagParts : Lex (Option String × String) := do
  let handle := if (← get).peek 1 == '!' then "!!" else "!"
  skip (handle.length - 1)
  let l ← get
  let c := l.peek 1
  if c == '<' then
    skip 2
    let suffix ← tagSuffix
    if (← next) != '>' then failHere
    skip 1
    return (none, suffix)
  else if isEndOrBlank c then
    skip 1
    return (none, handle)
  else
    let word := (l.rest.drop 1).takeWhile fun c => !isSpaceOrBreak c
    if word.contains '!' then
      let handle ← tagHandle
      return (some handle, ← tagSuffix)
    else
      skip 1
      return (some handle, ← tagSuffix)

/-- A tag. -/
def tag : Lex Unit := do
  saveKey
  allowKey false
  let start := (← get).mark
  let (handle, suffix) ← tagParts
  if !isSpaceOrBreak (← next) then failHere
  push ⟨.tag handle suffix, start, (← get).mark⟩

/-- A scalar that may be a key. -/
def keyScalar (scan : Lex Token) : Lex Unit := do
  saveKey
  allowKey false
  push (← scan)

/-- A block scalar; a key may follow it. -/
def blockScalarToken : Lex Unit := do
  allowKey true
  removeKey
  push (← blockScalar)

/-! ## The stream -/

/-- Whether a colon ahead stands between a key and its value. -/
def marksValue (l : Lexer) : Bool :=
  let blank := isEndOrBlank (l.peek 1)
  match l.flow with
  | [] => blank
  | .sequence :: _ => blank || l.version == .early
  | .mapping :: _ => l.version == .early ||
    match l.tokens.getLast? with
    | some t => t.kind != .value || blank
    | none => true

/-- Whether a plain scalar may begin ahead. -/
def beginsPlain (l : Lexer) : Bool :=
  let c := l.peek 0
  let c1 := l.peek 1
  if !(isSpaceOrBreak c || c == '\t' || "-?:,[]#&*!|>'\"%@".toList.contains c || c == '\x7b' ||
      c == '\x7d' || c == '\x60') then true
  else if c == '-' && !isEndOrBlank c1 then true
  else if c == ':' && l.inFlow && l.version != .early && !isSpaceOrTab c1 then true
  else !isEndOrBlank c1 && (c == '-' || (!l.inFlow && (c == '?' || c == ':')))

/-- Finds at least one more token. -/
def fetch : Lex Unit := do
  skipToToken ((← get).rest.length + 1)
  dropStale
  unwind (← get).mark.column
  let l ← get
  let c := l.peek 0
  if l.rest.isEmpty then streamEnd
  else if c == '%' && l.mark.column = 0 then directive
  else if l.mark.column = 0 && l.hasMark ['-', '-', '-'] then documentMark .documentStart
  else if l.mark.column = 0 && l.hasMark ['.', '.', '.'] then documentMark .documentEnd
  else if c == '[' then openBracket .sequence .flowSequenceStart
  else if c == '\x7b' then openBracket .mapping .flowMappingStart
  else if c == ']' then closeBracket .flowSequenceEnd
  else if c == '\x7d' then closeBracket .flowMappingEnd
  else if c == ',' then flowEntry
  else if c == '-' && isEndOrBlank (l.peek 1) then blockEntry
  else if c == '?' && (l.inFlow || isEndOrBlank (l.peek 1)) then explicitKey
  else if c == ':' && marksValue l then valueMark
  else if c == '*' then anchor .reference
  else if c == '&' then anchor .anchor
  else if c == '!' then tag
  else if (c == '|' || c == '>') && !l.inFlow then blockScalarToken
  else if c == '\'' || c == '"' then keyScalar quotedScalar
  else if beginsPlain l then keyScalar plainScalar
  else failHere

/-- Whether the first token may still turn out to begin a key. -/
def firstMayBeKey (l : Lexer) : Bool :=
  l.keys.any (·.2.number == l.taken)

/-- Finds tokens until the first one is settled. -/
def settle : Nat → Lex Unit
  | 0 => return ()
  | fuel + 1 => do
    let l ← get
    if l.done then return ()
    else if l.tokens.isEmpty then
      fetch
      settle fuel
    else
      dropStale
      if firstMayBeKey (← get) then
        fetch
        settle fuel

/-- The next token, which stays in the stream. -/
def peekToken : Lex Token := do
  settle ((← get).rest.length + 2)
  let l ← get
  return (l.tokens.head?).getD ⟨.streamEnd, l.mark, l.mark⟩

/-- Takes the next token from the stream. -/
def takeToken : Lex Token := do
  let t ← peekToken
  modify fun l => { l with tokens := l.tokens.tail, taken := l.taken + 1 }
  return t

/-- The lexer at the beginning of a text; a byte order mark is passed over. -/
def Lexer.ofText (s : String) : Lexer :=
  let l : Lexer := { rest := s.toList }
  if l.peek 0 == '\ufeff' then l.advance else l

/-- Characters that may stand in a text. -/
def isAllowed (c : Char) : Bool :=
  let n := c.toNat
  n == 0x09 || n == 0x0A || n == 0x0D || (0x20 ≤ n && n ≤ 0x7E) || n == 0x85 ||
    (0xA0 ≤ n && n ≤ 0xD7FF) || (0xE000 ≤ n && n ≤ 0xFFFD) || 0x10000 ≤ n

end CestExport.Yaml
