/-!
# Single-quoted PHP literals

Inside single quotes PHP knows two escapes, `\\` and `\'`; every other character
stands for itself.  `quote` writes a text as such a literal, and `scan?` reads
one back from the beginning of a program text.

    scan? (quoteChars s ++ rest) = some (s, rest)          (scan?_quoteChars)
-/

namespace CestExport.Php

/-! ## Algorithm -/

/-- A text with its backslashes and single quotes escaped. -/
def escape : List Char → List Char
  | [] => []
  | c :: cs => if c = '\\' ∨ c = '\'' then '\\' :: c :: escape cs else c :: escape cs

/-- A text as a single-quoted literal. -/
def quoteChars (s : List Char) : List Char :=
  '\'' :: (escape s ++ ['\''])

/-- A text as a single-quoted literal. -/
def quote (s : String) : String :=
  String.ofList (quoteChars s.toList)

/-- The text of a literal up to its closing quote, and what follows that quote. -/
def scanBody? : List Char → Option (List Char × List Char)
  | [] => none
  | '\'' :: rest => some ([], rest)
  | '\\' :: '\\' :: rest => (scanBody? rest).map fun p => ('\\' :: p.1, p.2)
  | '\\' :: '\'' :: rest => (scanBody? rest).map fun p => ('\'' :: p.1, p.2)
  | c :: rest => (scanBody? rest).map fun p => (c :: p.1, p.2)

/-- The text of the literal at the beginning of a program text, and what follows it. -/
def scan? : List Char → Option (List Char × List Char)
  | '\'' :: rest => scanBody? rest
  | _ => none

/-! ## Lemmas -/

theorem scanBody?_escape (s rest : List Char) :
    scanBody? (escape s ++ '\'' :: rest) = some (s, rest) := by
  induction s with
  | nil => simp [escape, scanBody?]
  | cons c cs ih =>
    by_cases hb : c = '\\'
    · simp [escape, hb, scanBody?, ih]
    · by_cases hq : c = '\''
      · simp [escape, hq, scanBody?, ih]
      · simp [escape, hb, hq, scanBody?, ih]

theorem scan?_quoteChars (s rest : List Char) :
    scan? (quoteChars s ++ rest) = some (s, rest) := by
  simp [quoteChars, scan?, scanBody?_escape]

end CestExport.Php
