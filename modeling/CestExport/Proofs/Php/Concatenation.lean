import CestExport.Proofs.Php.Literal
import CestExport.Proofs.Separated
import CestExport.Proofs.Template.Position

/-!
# Expressions that concatenate

The expression for a recorded text is a sequence of literals and reads with dots
in between.  It can be read in one way only, and evaluates to the text with the
values of the variables in place of the references.

    two lists of operands that write the same concatenation are equal     (Concatenation.unique)
    evaluate env (operands s) = some (s with its references replaced)     (concatenation_text)
-/

namespace CestExport.Php

/-! ## Algorithm -/

/-- An operand of an expression: a literal, or a read of the variable that a literal names. -/
inductive Operand
  | literal (body : List Char)
  | read (body : List Char)
deriving DecidableEq, Repr

namespace Operand

/-- What stands between the quotes of an operand. -/
def body : Operand → List Char
  | literal cs | read cs => cs

/-- An operand whose quotes are the ends of a literal. -/
def IsValid (o : Operand) : Prop :=
  ∃ cs, decode? o.body = some cs

/-- An operand as it is written. -/
def write : Operand → List Char
  | literal cs => '\'' :: (cs ++ ['\''])
  | read cs => readMark.toList ++ '\'' :: (cs ++ ['\'', ']'])

/-- The value of an operand; a read gives the value of the variable. -/
def value? (env : String → String) : Operand → Option (List Char)
  | literal cs => decode? cs
  | read cs => (decode? cs).map fun name => (env (String.ofList name)).toList

end Operand

/-- How the operands of a concatenation are separated. -/
def dot : List Char := " . ".toList

/-- A concatenation and its operands. -/
structure Concatenation (source : List Char) (operands : List Operand) : Prop where
  ne_nil : operands ≠ []
  valid : ∀ o ∈ operands, o.IsValid
  source_eq : source = separated dot Operand.write operands

/-- The value of a concatenation: the values of its operands, joined. -/
def evaluate (env : String → String) : List Operand → Option (List Char)
  | [] => some []
  | o :: os => (o.value? env).bind fun v => (evaluate env os).map (v ++ ·)

/-- The operand for a piece of a recorded text. -/
def Operand.ofPiece : Template.Piece → Operand
  | .text cs => .literal (escape cs)
  | .reference name => .read (escape name.toList)

/-- The operands for a recorded text. -/
def operands (s : String) : List Operand :=
  match Template.pieces s with
  | [] => [.literal []]
  | ps => ps.map Operand.ofPiece

/-! ## Operands -/

theorem readable_operand : Readable Operand.write Operand.IsValid fun _ => True := by
  intro x y rest rest' hx hy _ _ h
  obtain ⟨cs, hcs⟩ := hx
  obtain ⟨cs', hcs'⟩ := hy
  cases x with
  | literal b =>
    cases y with
    | literal b' =>
      have hbody : b ++ '\'' :: rest = b' ++ '\'' :: rest' := by
        simpa [Operand.write] using h
      obtain ⟨rfl, rfl⟩ := eq_of_quoted hcs hcs' hbody
      exact ⟨rfl, rfl⟩
    | read b' => simp [Operand.write, readMark] at h
  | read b =>
    cases y with
    | literal b' => simp [Operand.write, readMark] at h
    | read b' =>
      have hbody : b ++ '\'' :: (']' :: rest) = b' ++ '\'' :: (']' :: rest') := by
        simpa [Operand.write] using h
      obtain ⟨rfl, hrest⟩ := eq_of_quoted hcs hcs' hbody
      cases hrest
      exact ⟨rfl, rfl⟩

/-- A concatenation can be read in one way only. -/
theorem Concatenation.unique {source : List Char} {os os' : List Operand}
    (h : Concatenation source os) (h' : Concatenation source os') : os = os' := by
  have hends : ∀ cs, [] ≠ dot ++ cs := by
    intro cs hcs
    simp [dot] at hcs
  have hsource : separated dot Operand.write os ++ [] = separated dot Operand.write os' ++ [] := by
    rw [← h.source_eq, ← h'.source_eq]
  exact (readable_operand.eq_of_separated (fun _ => trivial) h.ne_nil h'.ne_nil h.valid h'.valid
    trivial trivial hends hends hsource).1

theorem toList_operand (p : Template.Piece) : (operand p).toList = (Operand.ofPiece p).write := by
  cases p with
  | text cs => simp [operand, quote, quoteChars, Operand.ofPiece, Operand.write]
  | reference name => simp [operand, read, quote, quoteChars, Operand.ofPiece, Operand.write]

theorem isValid_ofPiece (p : Template.Piece) : (Operand.ofPiece p).IsValid := by
  cases p with
  | text cs => exact ⟨cs, decode?_escape cs⟩
  | reference name => exact ⟨name.toList, decode?_escape name.toList⟩

theorem value?_ofPiece (env : String → String) (p : Template.Piece) :
    (Operand.ofPiece p).value? env = some (p.value env) := by
  cases p with
  | text cs => exact decode?_escape cs
  | reference name =>
    simp [Operand.ofPiece, Operand.value?, decode?_escape, Template.Piece.value]

/-! ## Recorded texts -/

theorem concatenation_operands (s : String) : Concatenation (text s).toList (operands s) := by
  unfold operands
  cases hps : Template.pieces s with
  | nil =>
    refine ⟨by simp, ?_, by rw [text_of_nil hps]; rfl⟩
    intro o ho
    obtain rfl := List.mem_singleton.1 ho
    exact ⟨[], rfl⟩
  | cons p ps =>
    rw [text_eq (by simp [hps]), hps]
    refine ⟨by simp, ?_, ?_⟩
    · intro o ho
      obtain ⟨q, _, rfl⟩ := List.mem_map.1 ho
      exact isValid_ofPiece q
    · simp only [String.toList_intercalate, separated, List.map_map]
      congr 2
      funext q
      exact toList_operand q

theorem evaluate_map (env : String → String) (ps : List Template.Piece) :
    evaluate env (ps.map Operand.ofPiece) = some (ps.flatMap (Template.Piece.value env)) := by
  induction ps with
  | nil => rfl
  | cons p ps ih => simp [evaluate, value?_ofPiece, ih]

theorem evaluate_operands (env : String → String) (s : String) :
    evaluate env (operands s) = some (Template.substitute env s.toList) := by
  have hpieces : Template.substitute env s.toList =
      (Template.pieces s).flatMap (Template.Piece.value env) := rfl
  unfold operands
  rw [hpieces]
  cases Template.pieces s with
  | nil => rfl
  | cons p ps => exact evaluate_map env (p :: ps)

/-- The expression for a recorded text is a concatenation that can be read in one way only; its
value is the text in which the leftmost references have been replaced, one after the other. -/
theorem concatenation_text (s : String) (env : String → String) :
    ∃ os value, Concatenation (text s).toList os ∧
      (∀ os', Concatenation (text s).toList os' → os' = os) ∧
      evaluate env os = some value ∧
      ∀ out, Template.Substituted env s.toList out ↔ out = value := by
  refine ⟨operands s, Template.substitute env s.toList, concatenation_operands s, ?_,
    evaluate_operands env s, fun _ => Template.substituted_iff⟩
  intro os' h
  exact h.unique (concatenation_operands s)

end CestExport.Php
