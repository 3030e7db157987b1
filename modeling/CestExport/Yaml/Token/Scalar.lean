import CestExport.Yaml.Token.Basic

/-!
# Scalars of YAML

A scalar is plain, quoted, or a block of indented lines.  Single line breaks
inside plain, quoted and folded scalars become spaces.
-/

namespace CestExport.Yaml

/-- The texts of short escapes. -/
def shortEscapes : List (Char × Char) :=
  [('0', '\x00'), ('a', '\x07'), ('b', '\x08'), ('t', '\t'), ('\t', '\t'), ('n', '\n'),
    ('v', '\x0b'), ('f', '\x0c'), ('r', '\r'), ('e', '\x1b'), (' ', ' '), ('"', '"'), ('/', '/'),
    ('\\', '\\'), ('N', '\x85'), ('_', '\u00a0'), ('L', '\u2028'), ('P', '\u2029')]

/-- How many hexadecimal digits an escape takes. -/
def hexEscapes : List (Char × Nat) := [('x', 2), ('u', 4), ('U', 8)]

/-- The value of a hexadecimal digit. -/
def hexDigitValue? (c : Char) : Option Nat :=
  if c.isDigit then some (c.toNat - 0x30)
  else if 'a' ≤ c ∧ c ≤ 'f' then some (c.toNat - 0x57)
  else if 'A' ≤ c ∧ c ≤ 'F' then some (c.toNat - 0x37)
  else none

/-- The value of hexadecimal digits. -/
def hexValue (cs : List Char) : Nat :=
  cs.foldl (fun n c => 16 * n + (hexDigitValue? c).getD 0) 0

/-! ## Quoted scalars -/

/-- The empty lines inside a quoted scalar. -/
def quotedBreaks : Nat → Lex (List Char)
  | 0 => return []
  | fuel + 1 => do
    if (← get).hasDocumentMark then failHere
    skipWhile isSpaceOrTab
    if isBreak (← next) then
      let b ← lineBreak
      return b ++ (← quotedBreaks fuel)
    else return []

/-- A character written by its number. -/
def hexEscape (n : Nat) : Lex (List Char) := do
  let l ← get
  if ((List.range n).all fun k => (hexDigitValue? (l.peek k)).isSome) then
    let code := hexValue (l.ahead n)
    skip n
    if 0x7FFFFFFF < code then throw (.bounds "Python int too large to convert to C int")
    if 0x10FFFF < code then throw (.value "chr() arg not in range(0x110000)")
    return [Char.ofNat code]
  else failHere

/-- What a backslash begins in a double-quoted scalar. -/
def escape (fuel : Nat) : Lex (List Char) := do
  skip 1
  let c ← next
  match shortEscapes.lookup c, hexEscapes.lookup c with
  | some x, _ =>
    skip 1
    return [x]
  | none, some n =>
    skip 1
    hexEscape n
  | none, none =>
    if isBreak c then
      let _ ← lineBreak
      quotedBreaks fuel
    else failHere

/-- Characters that end a stretch of a quoted scalar. -/
def endsStretch (c : Char) : Bool :=
  isSpaceOrBreak c || c == '\t' || c == '\'' || c == '"' || c == '\\'

/-- A stretch of a quoted scalar without blanks. -/
def quotedStretch (double : Bool) : Nat → Lex (List Char)
  | 0 => return []
  | fuel + 1 => do
    let cs ← takeChars? fun c => !endsStretch c
    let l ← get
    let c := l.peek 0
    if !double && c == '\'' && l.peek 1 == '\'' then
      skip 2
      return cs ++ '\'' :: (← quotedStretch double fuel)
    else if (double && c == '\'') || (!double && (c == '"' || c == '\\')) then
      skip 1
      return cs ++ c :: (← quotedStretch double fuel)
    else if double && c == '\\' then
      let e ← escape fuel
      return cs ++ e ++ (← quotedStretch double fuel)
    else return cs

/-- A stretch of blanks in a quoted scalar. -/
def quotedBlanks (fuel : Nat) : Lex (List Char) := do
  let blanks ← takeChars? isSpaceOrTab
  let l ← get
  if l.rest.isEmpty then failHere
  else if isBreak (l.peek 0) then
    let b ← lineBreak
    let breaks ← quotedBreaks fuel
    if b != ['\n'] then return b ++ breaks
    else if breaks.isEmpty then return [' ']
    else return breaks
  else return blanks

/-- A quoted scalar behind its opening quote. -/
def quotedRest (quote : Char) : Nat → Lex (List Char)
  | 0 => failHere
  | fuel + 1 => do
    let cs ← quotedStretch (quote == '"') (fuel + 1)
    if (← next) == quote && !(← get).rest.isEmpty then
      skip 1
      return cs
    else
      let blanks ← quotedBlanks fuel
      return cs ++ blanks ++ (← quotedRest quote fuel)

/-- A quoted scalar. -/
def quotedScalar : Lex Token := do
  let l ← get
  skip 1
  let cs ← quotedRest (l.peek 0) (l.rest.length + 1)
  return ⟨.scalar (String.ofList cs) false, l.mark, (← get).mark⟩

/-! ## Plain scalars -/

/-- How many characters of a plain scalar stand ahead without a blank. -/
def plainRun (flow early : Bool) : List Char → Nat
  | [] => 0
  | c :: cs =>
    let after := (cs.head?).getD '\x00'
    let goesOn :=
      if c == ':' && !isEndOrBlank after then true
      else if c == '?' then !(flow && early)
      else !(isEndOrBlank c || (!flow && c == ':') ||
        (flow && (c == ',' || c == ':' || c == '[' || c == ']' || c == '\x7b' || c == '\x7d')))
    if goesOn then plainRun flow early cs + 1 else 0

/-- The empty lines inside a plain scalar, or none before the mark of a document. -/
def plainBreaks : Nat → Lex (Option (List Char))
  | 0 => return some []
  | fuel + 1 => do
    let c ← next
    if c == ' ' then
      skip 1
      plainBreaks fuel
    else if isBreak c then
      let b ← lineBreak
      if (← get).hasDocumentMark then return none
      return (← plainBreaks fuel).map (b ++ ·)
    else return some []

/-- The blanks between two stretches of a plain scalar. -/
def plainBlanks : Lex (List Char) := do
  let blanks ← takeChars? (· == ' ')
  if isBreak (← next) then
    let b ← lineBreak
    modify fun l => { l with keyAllowed := true }
    if (← get).hasDocumentMark then return []
    match ← plainBreaks (← get).rest.length with
    | none => return []
    | some breaks =>
      if b != ['\n'] then return b ++ breaks
      else if breaks.isEmpty then return [' ']
      else return breaks
  else return blanks

/-- The stretches of a plain scalar, the first one behind the given blanks, and where they end. -/
def plainStretches (indent : Int) : Nat → List Char → Mark → Lex (List Char × Mark)
  | 0, _, stop => return ([], stop)
  | fuel + 1, blanks, stop => do
    let l ← get
    if l.peek 0 == '#' then return ([], stop)
    let n := plainRun l.inFlow (l.version == .early) l.rest
    if n = 0 then return ([], stop)
    modify fun l => { l with keyAllowed := false }
    let cs ← takeChars n
    let stop := (← get).mark
    let spaces ← plainBlanks
    let l ← get
    if spaces.isEmpty || l.peek 0 == '#' || (!l.inFlow && (l.mark.column : Int) < indent) then
      return (blanks ++ cs, stop)
    else
      let (more, stop) ← plainStretches indent fuel spaces stop
      return (blanks ++ cs ++ more, stop)

/-- A plain scalar. -/
def plainScalar : Lex Token := do
  let l ← get
  let (cs, stop) ← plainStretches (l.indent + 1) (l.rest.length + 1) [] l.mark
  return ⟨.scalar (String.ofList cs) true, l.mark, stop⟩

/-! ## Block scalars -/

/-- What becomes of the line breaks at the end of a block scalar. -/
inductive Chomping
  | clip
  | strip
  | keep
deriving DecidableEq, Repr

/-- The indentation that a digit asks for. -/
def indentDigit? : Lex (Option Nat) := do
  let c ← next
  if c.isDigit then
    if c == '0' then failHere
    skip 1
    return some (c.toNat - 0x30)
  else return none

/-- A sign for the line breaks at the end. -/
def chomping? : Lex (Option Chomping) := do
  let c ← next
  if c == '+' then
    skip 1
    return some .keep
  else if c == '-' then
    skip 1
    return some .strip
  else return none

/-- The sign and the digit in the head of a block scalar, in either order. -/
def blockIndicators : Lex (Chomping × Option Nat) := do
  let result ← (do
    match ← chomping? with
    | some c => return (c, ← indentDigit?)
    | none =>
      match ← indentDigit? with
      | some n => return ((← chomping?).getD .clip, some n)
      | none => return (.clip, none))
  if isSpaceOrBreak (← next) then return result else failHere

/-- The rest of the head's line: nothing but blanks and a comment. -/
def blockHeadRest : Lex Unit := do
  skipWhile (· == ' ')
  if (← next) == '#' then skipWhile fun c => !isEnd c
  if !isEnd (← next) then failHere
  let _ ← lineBreak

/-- Empty lines in front of the first line, the indentation of the first empty one, and the widest
indentation up to the first line. -/
def blockIndentation : Nat → Option Nat → Nat → Lex (List Char × Option Nat × Nat)
  | 0, first, widest => return ([], first, widest)
  | fuel + 1, first, widest => do
    let c ← next
    if c == ' ' then
      skip 1
      blockIndentation fuel first (max widest (← get).mark.column)
    else if isBreak c then
      let column := (← get).mark.column
      let b ← lineBreak
      let (breaks, first, widest) ← blockIndentation fuel (some (first.getD column)) widest
      return (b ++ breaks, first, widest)
    else return ([], first, widest)

/-- Empty lines in front of the first line, and its indentation.  If the first empty line has
spaces, no later line may have more. -/
def measureIndentation (fuel : Nat) : Lex (List Char × Nat) := do
  let (breaks, first, widest) ← blockIndentation fuel none 0
  let column := first.getD 0
  if 0 < column ∧ column < widest then throw .unevenIndent
  return (breaks, widest)

/-- Skips spaces up to a column. -/
def skipIndent (indent : Nat) : Lex Unit := do
  let l ← get
  skip (min (l.run (· == ' ')) (indent - l.mark.column))

/-- Empty lines in front of a line with a known indentation. -/
def blockBreaks (indent : Nat) : Nat → Lex (List Char)
  | 0 => return []
  | fuel + 1 => do
    skipIndent indent
    if isBreak (← next) then
      let b ← lineBreak
      return b ++ (← blockBreaks indent fuel)
    else return []

/-- The lines of a block scalar behind some empty lines: their text, and the line breaks that
follow the last one, its own apart. -/
def blockLines (folded atTop : Bool) (indent : Nat) :
    Nat → List Char → Lex (List Char × List Char × List Char)
  | 0, breaks => return ([], [], breaks)
  | fuel + 1, breaks => do
    let l ← get
    if l.mark.column = indent && !l.rest.isEmpty then
      let leading := !isSpaceOrTab (l.peek 0)
      let cs ← takeChars? fun c => !isEnd c
      let own ← lineBreak
      let later ← blockBreaks indent (fuel + 1)
      let l ← get
      if atTop && l.hasDocumentMark && l.mark.column = 0 then
        return (breaks ++ cs, own, later)
      else if l.mark.column = indent && !l.rest.isEmpty then
        let joint :=
          if folded && own == ['\n'] && leading && !isSpaceOrTab (l.peek 0) then
            (if later.isEmpty then [' '] else [])
          else own
        let (text, own, later) ← blockLines folded atTop indent fuel later
        return (breaks ++ cs ++ joint ++ text, own, later)
      else return (breaks ++ cs, own, later)
    else return ([], [], breaks)

/-- A block scalar. -/
def blockScalar : Lex Token := do
  let l ← get
  skip 1
  let (chomping, digit) ← blockIndicators
  blockHeadRest
  let least := (l.indent + 1).toNat
  let fuel := l.rest.length + 1
  let (indent, least, breaks) ← (do
    match digit with
    | none =>
      let (breaks, widest) ← measureIndentation fuel
      return (max least widest, least, breaks)
    | some n =>
      let least := max least 1
      let indent := least + n - 1
      return (indent, least, ← blockBreaks indent fuel))
  let (text, own, later) ← blockLines (l.peek 0 == '>') (least == 0) indent fuel breaks
  let ending := match chomping with
    | .clip => own
    | .keep => own ++ later
    | .strip => []
  return ⟨.scalar (String.ofList (text ++ ending)) false, l.mark, (← get).mark⟩

end CestExport.Yaml
