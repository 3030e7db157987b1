import CestExport.Yaml.Version

/-!
# Tokens of YAML

A YAML text is a sequence of tokens.  The beginnings and ends of block
collections have tokens of their own, which the indentation implies.
-/

namespace CestExport.Yaml

/-- What a token is. -/
inductive TokenKind
  | streamEnd
  | directive (name : String) (arguments : List String)
  | documentStart
  | documentEnd
  | blockSequenceStart
  | blockMappingStart
  | blockEnd
  | flowSequenceStart
  | flowSequenceEnd
  | flowMappingStart
  | flowMappingEnd
  | blockEntry
  | flowEntry
  | key
  | value
  | reference (name : String)
  | anchor (name : String)
  /-- The handle of a tag, if it has one, and the rest. -/
  | tag (handle : Option String) (suffix : String)
  | scalar (text : String) (plain : Bool)
deriving DecidableEq, Repr

/-- A token and the places where it begins and ends. -/
structure Token where
  kind : TokenKind
  start : Mark
  stop : Mark
deriving DecidableEq, Repr

/-- A place where a key without a mark of its own may begin. -/
structure SimpleKey where
  /-- The number of the token that begins the key. -/
  number : Nat
  required : Bool
  index : Nat
  mark : Mark
deriving DecidableEq, Repr

/-- The brackets of flow collections. -/
inductive Flow
  | sequence
  | mapping
deriving DecidableEq, Repr

/-- What is left of the text, and the tokens that are found but not taken yet. -/
structure Lexer where
  rest : List Char
  index : Nat := 0
  mark : Mark := ⟨0, 0⟩
  done : Bool := false
  /-- The open brackets, the innermost first. -/
  flow : List Flow := []
  tokens : List Token := []
  taken : Nat := 0
  indent : Int := -1
  indents : List Int := []
  keyAllowed : Bool := true
  /-- The places where keys may begin, by the number of open brackets. -/
  keys : List (Nat × SimpleKey) := []
  version : Version := .usual

/-- A step of the lexer. -/
abbrev Lex := StateT Lexer (Except Error)

namespace Lexer

/-- The character some places ahead; the text is followed by `NUL`. -/
def peek (l : Lexer) (n : Nat) : Char := (l.rest[n]?).getD '\x00'

/-- The next characters. -/
def ahead (l : Lexer) (n : Nat) : List Char := l.rest.take n

/-- The lexer behind its next character. -/
def advance (l : Lexer) : Lexer :=
  match l.rest with
  | [] => l
  | c :: cs =>
    let breaks := c == '\n' || (c == '\r' && cs.head? != some '\n')
    let mark : Mark := if breaks then ⟨l.mark.line + 1, 0⟩
      else if c == '\ufeff' then l.mark
      else ⟨l.mark.line, l.mark.column + 1⟩
    { l with rest := cs, index := l.index + 1, mark := mark }

/-- The lexer behind `n` characters. -/
def advanceBy (l : Lexer) : Nat → Lexer
  | 0 => l
  | n + 1 => l.advance.advanceBy n

/-- How many characters ahead satisfy `p`. -/
def run (l : Lexer) (p : Char → Bool) : Nat :=
  (l.rest.takeWhile p).length

/-- Whether brackets are open. -/
def inFlow (l : Lexer) : Bool := !l.flow.isEmpty

end Lexer

/-- Fails at the current place. -/
def failHere {α : Type} : Lex α := do
  throw (.misplaced (← get).mark)

/-- Skips characters. -/
def skip (n : Nat) : Lex Unit := modify (·.advanceBy n)

/-- Skips the characters that satisfy `p`. -/
def skipWhile (p : Char → Bool) : Lex Unit := modify fun l => l.advanceBy (l.run p)

/-- Takes characters. -/
def takeChars (n : Nat) : Lex (List Char) := do
  let l ← get
  set (l.advanceBy n)
  return l.ahead n

/-- Takes the characters that satisfy `p`. -/
def takeChars? (p : Char → Bool) : Lex (List Char) := do
  takeChars ((← get).run p)

/-- The next character. -/
def next : Lex Char := return (← get).peek 0

/-- Line breaks and the end of the text. -/
def isEnd (c : Char) : Bool := c == '\n' || c == '\x00' || c == '\r' || c == '\x85'

/-- Line breaks, the end of the text, spaces and tabs. -/
def isEndOrBlank (c : Char) : Bool := isEnd c || c == ' ' || c == '\t'

/-- Line breaks, those of paragraphs and lines included. -/
def isBreak (c : Char) : Bool :=
  c == '\n' || c == '\r' || c == '\x85' || c == '\u2028' || c == '\u2029'

/-- A space, a line break or the end of the text. -/
def isSpaceOrBreak (c : Char) : Bool := c == ' ' || c == '\x00' || isBreak c

/-- A space or a tab. -/
def isSpaceOrTab (c : Char) : Bool := c == ' ' || c == '\t'

/-- Takes a line break, if there is one, as a single character. -/
def lineBreak : Lex (List Char) := do
  let l ← get
  let c := l.peek 0
  if c == '\r' && l.peek 1 == '\n' then
    skip 2
    return ['\n']
  else if c == '\r' || c == '\n' || c == '\x85' then
    skip 1
    return ['\n']
  else if c == '\u2028' || c == '\u2029' then
    skip 1
    return [c]
  else return []

/-- Whether a mark of three characters and a blank stands ahead. -/
def Lexer.hasMark (l : Lexer) (mark : List Char) : Bool :=
  l.ahead 3 == mark && isEndOrBlank (l.peek 3)

/-- Whether the beginning or the end of a document is marked ahead. -/
def Lexer.hasDocumentMark (l : Lexer) : Bool :=
  l.hasMark ['-', '-', '-'] || l.hasMark ['.', '.', '.']

end CestExport.Yaml
