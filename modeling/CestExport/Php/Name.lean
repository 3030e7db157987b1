import CestExport.Text.Cut

/-!
# Names in generated code

Method and class names are made from recorded names by dropping what a PHP
identifier cannot hold; a name that would begin with a digit gets an underscore.

    identifier? s = none  ↔  nothing of s is left                (identifier?_eq_none)
-/

namespace CestExport.Php

/-- ASCII letters, digits and the underscore. -/
def isNameChar (c : Char) : Bool :=
  c.isAlphanum || c == '_'

/-- The name characters of a text, in order. -/
def nameChars (s : String) : List Char :=
  s.toList.filter isNameChar

/-- The name characters of a text, fit to end a variable name. -/
def nameSuffix (s : String) : String :=
  String.ofList (nameChars s)

/-- A name that does not begin with a digit. -/
def guardDigit : List Char → List Char
  | [] => []
  | c :: cs => if c.isDigit then '_' :: c :: cs else c :: cs

/-- The identifier made from a text, or none if no name character is left. -/
def identifier? (s : String) : Option String :=
  match nameChars s with
  | [] => none
  | cs => some (String.ofList (guardDigit cs))

/-- A word with its first letter in upper case. -/
def capitalize : List Char → List Char
  | [] => []
  | c :: cs => c.toUpper :: cs

/-- The words of a text, each with a capital, joined. -/
def pascalCase (s : String) : String :=
  String.ofList ((Text.splitChars (fun c => !c.isAlphanum) s.toList).flatMap capitalize)

/-- The class name made from a project name and a suffix, or none if no name character is left. -/
def className? (project suffix : String) : Option String :=
  identifier? (pascalCase project ++ suffix)

/-! ## Lemmas -/

theorem identifier?_eq_none {s : String} : identifier? s = none ↔ nameChars s = [] := by
  unfold identifier?
  split <;> simp_all

theorem mem_nameChars {s : String} {c : Char} (h : c ∈ nameChars s) : isNameChar c = true :=
  (List.mem_filter.1 h).2

end CestExport.Php
