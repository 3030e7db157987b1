import CestExport.Php.Name
import CestExport.Proofs.Php.Concatenation

/-!
# Argument lists

An argument is an operand or a constant of the class of keys; a constant has to
be an identifier.  An argument list can be read in one way only, even in front of
the bracket that closes the call and of whatever follows that bracket.

    source ++ ")" ++ rest is read as source, then ")", then rest      (ArgumentList.unique)
-/

namespace CestExport.Php

/-! ## Algorithm -/

/-- A name that PHP knows as an identifier. -/
def isIdentifier : List Char → Bool
  | [] => false
  | c :: cs => !c.isDigit && (c :: cs).all isNameChar

/-- How a constant of the class of keys begins. -/
def constantMark : List Char := "WebDriverKeys::".toList

/-- An argument of a call. -/
inductive Argument
  | operand (o : Operand)
  | constant (name : List Char)
deriving DecidableEq, Repr

namespace Argument

/-- A valid operand, or a constant with an identifier. -/
def IsValid : Argument → Prop
  | operand o => o.IsValid
  | constant name => isIdentifier name = true

/-- An argument as it is written. -/
def write : Argument → List Char
  | operand o => o.write
  | constant name => constantMark ++ name

end Argument

/-- How arguments are separated. -/
def comma : List Char := ", ".toList

/-- A list of arguments, at least one. -/
structure ArgumentList (source : List Char) (arguments : List Argument) : Prop where
  ne_nil : arguments ≠ []
  valid : ∀ a ∈ arguments, a.IsValid
  source_eq : source = separated comma Argument.write arguments

/-- A text that cannot continue a name. -/
def EndsName (rest : List Char) : Prop :=
  ∀ c cs, rest = c :: cs → isNameChar c = false

/-! ## Lemmas -/

theorem isNameChar_of_isIdentifier {name : List Char} (h : isIdentifier name = true) :
    ∀ c ∈ name, isNameChar c = true := by
  cases name with
  | nil => simp
  | cons c cs =>
    simp only [isIdentifier, Bool.and_eq_true, List.all_eq_true] at h
    exact h.2

theorem endsName_comma (cs : List Char) : EndsName (comma ++ cs) := by
  intro c ds h
  obtain ⟨rfl, _⟩ := List.cons.inj h
  decide

theorem eq_of_nameChars {a b rest rest' : List Char} (ha : ∀ c ∈ a, isNameChar c = true)
    (hb : ∀ c ∈ b, isNameChar c = true) (hr : EndsName rest) (hr' : EndsName rest')
    (h : a ++ rest = b ++ rest') : a = b ∧ rest = rest' := by
  induction a generalizing b with
  | nil =>
    cases b with
    | nil => exact ⟨rfl, h⟩
    | cons d ds =>
      have hd := hb d List.mem_cons_self
      rw [hr d (ds ++ rest') h] at hd
      simp at hd
  | cons c cs ih =>
    cases b with
    | nil =>
      have hc := ha c List.mem_cons_self
      rw [hr' c (cs ++ rest) h.symm] at hc
      simp at hc
    | cons d ds =>
      obtain ⟨rfl, htail⟩ := List.cons.inj h
      obtain ⟨rfl, hrest⟩ := ih (fun x hx => ha x (List.mem_cons_of_mem c hx))
        (fun x hx => hb x (List.mem_cons_of_mem c hx)) htail
      exact ⟨rfl, hrest⟩

theorem write_operand_ne_constant (o : Operand) (name rest rest' : List Char) :
    o.write ++ rest ≠ constantMark ++ name ++ rest' := by
  have hconstant : constantMark = 'W' :: "ebDriverKeys::".toList := rfl
  have hread : readMark.toList = '$' :: "this->vars[".toList := rfl
  intro h
  have hhead := congrArg List.head? h
  rw [hconstant] at hhead
  cases o with
  | literal body => simp [Operand.write] at hhead
  | read body =>
    rw [Operand.write, hread] at hhead
    simp at hhead

theorem write_operand (o : Operand) : (Argument.operand o).write = o.write := rfl

theorem write_constant (name : List Char) :
    (Argument.constant name).write = constantMark ++ name := rfl

theorem readable_argument : Readable Argument.write Argument.IsValid EndsName := by
  intro x y rest rest' hx hy hr hr' h
  cases x with
  | operand o =>
    cases y with
    | operand o' =>
      rw [write_operand, write_operand] at h
      obtain ⟨rfl, hrest⟩ := readable_operand (x := o) (y := o') hx hy trivial trivial h
      exact ⟨rfl, hrest⟩
    | constant name =>
      rw [write_operand, write_constant] at h
      exact absurd h (write_operand_ne_constant o name rest rest')
  | constant name =>
    cases y with
    | operand o =>
      rw [write_operand, write_constant] at h
      exact absurd h.symm (write_operand_ne_constant o name rest' rest)
    | constant name' =>
      rw [write_constant, write_constant, List.append_assoc, List.append_assoc,
        List.append_cancel_left_eq] at h
      obtain ⟨rfl, hrest⟩ := eq_of_nameChars (isNameChar_of_isIdentifier hx)
        (isNameChar_of_isIdentifier hy) hr hr' h
      exact ⟨rfl, hrest⟩

/-- The bracket that follows an argument list closes the call: nothing in the list does, and
nothing behind the bracket belongs to the list. -/
theorem ArgumentList.unique {source source' rest rest' : List Char} {as as' : List Argument}
    (h : ArgumentList source as) (h' : ArgumentList source' as')
    (heq : source ++ ')' :: rest = source' ++ ')' :: rest') : as = as' ∧ rest = rest' := by
  have hstop : ∀ cs, EndsName (')' :: cs) := by
    intro cs c ds hc
    obtain ⟨rfl, _⟩ := List.cons.inj hc
    decide
  have hend : ∀ cs ds, ')' :: cs ≠ comma ++ ds := by
    intro cs ds hc
    simp [comma] at hc
  rw [h.source_eq, h'.source_eq] at heq
  obtain ⟨rfl, hrest⟩ := readable_argument.eq_of_separated endsName_comma h.ne_nil h'.ne_nil
    h.valid h'.valid (hstop rest) (hstop rest') (hend rest) (hend rest') heq
  exact ⟨rfl, (List.cons.inj hrest).2⟩

end CestExport.Php
