import CestExport.Template

/-!
# Pieces and references

Read from the left, a text falls into pieces: its references, none of which begins
inside an earlier one, and the plain texts between them.  The pieces of a text are
what is needed to replace its references: each gives way to the value of its name,
and every other character stays.  Plain text is never cut in two.

    the pieces of a text, written one after the other, are the text          (write_scan)
    reference? cs = some (name, rest)  ↔  cs is ${name} and rest          (reference?_iff)
    Substituted env cs out  ↔  out joins the values of scan cs            (substituted_iff)
    no text in scan cs is empty or follows another one                   (alternates_scan)
    ∀ env, substitute env cs = cs  ↔  references (scan cs) = []     (substitute_eq_self_iff)
-/

namespace CestExport.Template

/-- A stretch of plain text, or a reference to a variable. -/
inductive Piece
  | text (chars : List Char)
  | reference (name : String)
deriving DecidableEq, Repr

/-! ## Algorithm -/

/-- A character in front of pieces, joined to a plain text that begins them. -/
def push (c : Char) : List Piece → List Piece
  | .text cs :: ps => .text (c :: cs) :: ps
  | ps => .text [c] :: ps

/-- The pieces of a text. -/
def scan (cs : List Char) : List Piece :=
  match cs with
  | [] => []
  | c :: rest =>
    match _h : reference? (c :: rest) with
    | some (name, after) => .reference (String.ofList name) :: scan after
    | none => push c (scan rest)
termination_by cs.length
decreasing_by
  · exact length_lt_of_reference? _h
  · simp

/-- The pieces of a text. -/
def pieces (s : String) : List Piece :=
  scan s.toList

/-- The names that a text refers to, in order. -/
def references (ps : List Piece) : List String :=
  ps.filterMap fun
    | .text _ => none
    | .reference name => some name

/-- A piece as it is recorded. -/
def Piece.write : Piece → List Char
  | .text cs => cs
  | .reference name => '$' :: '{' :: (name.toList ++ ['}'])

/-- What may stand between the braces of a reference. -/
def IsName (name : List Char) : Prop :=
  name ≠ [] ∧ '}' ∉ name

/-- A reference as it is recorded. -/
def writeReference (name : List Char) : List Char :=
  '$' :: '{' :: (name ++ ['}'])

/-- A text that begins with a reference. -/
def BeginsReference (cs : List Char) : Prop :=
  ∃ name rest, IsName name ∧ cs = writeReference name ++ rest

/-- A text before and after its references are replaced, each time the leftmost of those left. -/
inductive Substituted (env : String → String) : List Char → List Char → Prop
  | plain {cs : List Char} :
    (∀ u v, cs = u ++ v → ¬BeginsReference v) → Substituted env cs cs
  | reference {u name rest out : List Char} : IsName name →
    (∀ x y, u = x ++ y → y ≠ [] → ¬BeginsReference (y ++ (writeReference name ++ rest))) →
    Substituted env rest out →
    Substituted env (u ++ (writeReference name ++ rest))
      (u ++ ((env (String.ofList name)).toList ++ out))

/-- The value of a piece. -/
def Piece.value (env : String → String) : Piece → List Char
  | .text cs => cs
  | .reference name => (env name).toList

/-- The values of all pieces of a text, joined. -/
def substitute (env : String → String) (cs : List Char) : List Char :=
  (scan cs).flatMap (Piece.value env)

/-- Pieces of which no text is empty or follows another one. -/
def Alternates : List Piece → Prop
  | [] => True
  | .reference _ :: ps => Alternates ps
  | .text cs :: ps => cs ≠ [] ∧ (∀ ds qs, ps ≠ .text ds :: qs) ∧ Alternates ps

/-! ## Lemmas -/

theorem write_push (c : Char) (ps : List Piece) :
    (push c ps).flatMap Piece.write = c :: ps.flatMap Piece.write := by
  cases ps with
  | nil => rfl
  | cons p ps => cases p <;> rfl

/-- The pieces of a text, written one after the other, are the text. -/
theorem write_scan (cs : List Char) : (scan cs).flatMap Piece.write = cs := by
  fun_induction scan cs with
  | case1 => rfl
  | case2 c rest name after h ih =>
    rw [List.flatMap_cons, ih, (reference?_eq_some h).1]
    simp [Piece.write]
  | case3 c rest h ih => rw [write_push, ih]

theorem cutFirstChars_append {c : Char} {a : List Char} (h : c ∉ a) (b : List Char) :
    Text.cutFirstChars c (a ++ c :: b) = some (a, b) := by
  induction a with
  | nil => simp [Text.cutFirstChars]
  | cons d ds ih =>
    obtain ⟨hd, hds⟩ := not_or.1 (mt List.mem_cons.2 h)
    rw [List.cons_append, Text.cutFirstChars, if_neg (Ne.symm hd), ih hds]
    rfl

theorem reference?_iff {cs name rest : List Char} :
    reference? cs = some (name, rest) ↔ cs = writeReference name ++ rest ∧ IsName name := by
  constructor
  · intro h
    obtain ⟨rfl, hname⟩ := reference?_eq_some h
    exact ⟨by simp [writeReference], hname⟩
  · rintro ⟨rfl, hne, hmem⟩
    have hcut := cutFirstChars_append hmem rest
    cases name with
    | nil => exact absurd rfl hne
    | cons c cs =>
      rw [List.cons_append] at hcut
      simp [writeReference, reference?, hcut]

theorem reference?_eq_none {cs : List Char} : reference? cs = none ↔ ¬BeginsReference cs := by
  constructor
  · rintro h ⟨name, rest, hname, hcs⟩
    rw [reference?_iff.2 ⟨hcs, hname⟩] at h
    simp at h
  · intro h
    cases hr : reference? cs with
    | none => rfl
    | some p =>
      obtain ⟨hcs, hname⟩ := reference?_iff.1 hr
      exact absurd ⟨p.1, p.2, hname, hcs⟩ h

theorem scan_of_reference {cs name rest : List Char} (h : reference? cs = some (name, rest)) :
    scan cs = .reference (String.ofList name) :: scan rest := by
  cases cs with
  | nil => simp [reference?] at h
  | cons c cs =>
    rw [scan]
    split
    next h' =>
      rw [h] at h'
      cases h'
      rfl
    next h' =>
      rw [h] at h'
      simp at h'

theorem scan_of_none {c : Char} {cs : List Char} (h : reference? (c :: cs) = none) :
    scan (c :: cs) = push c (scan cs) := by
  rw [scan]
  split
  next h' =>
    rw [h] at h'
    simp at h'
  next => rfl

/-! ## Substitution -/

theorem flatMap_value_push (env : String → String) (c : Char) (ps : List Piece) :
    (push c ps).flatMap (Piece.value env) = c :: ps.flatMap (Piece.value env) := by
  cases ps with
  | nil => rfl
  | cons p ps => cases p <;> rfl

theorem substitute_nil (env : String → String) : substitute env [] = [] := by
  simp [substitute, scan]

theorem substitute_of_reference (env : String → String) {name : List Char} (h : IsName name)
    (rest : List Char) : substitute env (writeReference name ++ rest) =
      (env (String.ofList name)).toList ++ substitute env rest := by
  rw [substitute, scan_of_reference (reference?_iff.2 ⟨rfl, h⟩)]
  rfl

theorem substitute_cons (env : String → String) {c : Char} {cs : List Char}
    (h : ¬BeginsReference (c :: cs)) : substitute env (c :: cs) = c :: substitute env cs := by
  rw [substitute, scan_of_none (reference?_eq_none.2 h), flatMap_value_push]
  rfl

/-- Characters at which no reference begins stay. -/
theorem substitute_append (env : String → String) {u v : List Char}
    (h : ∀ x y, u = x ++ y → y ≠ [] → ¬BeginsReference (y ++ v)) :
    substitute env (u ++ v) = u ++ substitute env v := by
  induction u with
  | nil => rfl
  | cons c cs ih =>
    have hc : ¬BeginsReference (c :: (cs ++ v)) := h [] (c :: cs) rfl (by simp)
    rw [List.cons_append, substitute_cons env hc, ih]
    · rfl
    · intro x y hxy
      exact h (c :: x) y (by rw [hxy, List.cons_append])

theorem Substituted.cons {env : String → String} {c : Char} {cs out : List Char}
    (hc : ¬BeginsReference (c :: cs)) (h : Substituted env cs out) :
    Substituted env (c :: cs) (c :: out) := by
  cases h with
  | plain hplain =>
    refine .plain ?_
    intro u v huv
    cases u with
    | nil =>
      rw [List.nil_append] at huv
      exact huv ▸ hc
    | cons d u =>
      rw [List.cons_append, List.cons.injEq] at huv
      exact hplain u v huv.2
  | @reference u name rest out hname hfirst hrest =>
    refine Substituted.reference (u := c :: u) hname ?_ hrest
    intro x y hxy hy
    cases x with
    | nil =>
      rw [List.nil_append] at hxy
      subst hxy
      exact hc
    | cons d x =>
      rw [List.cons_append, List.cons.injEq] at hxy
      exact hfirst x y hxy.2 hy

theorem substituted_substitute (env : String → String) (cs : List Char) :
    Substituted env cs (substitute env cs) := by
  fun_induction scan cs with
  | case1 =>
    rw [substitute_nil]
    refine .plain ?_
    rintro u v huv ⟨name, rest, _, hv⟩
    simp [hv, writeReference] at huv
  | case2 c rest name after h ih =>
    obtain ⟨hcs, hname⟩ := reference?_iff.1 h
    rw [hcs, substitute_of_reference env hname]
    refine Substituted.reference (u := []) hname ?_ ih
    intro x y hxy hy
    exact absurd (List.append_eq_nil_iff.1 hxy.symm).2 hy
  | case3 c rest h ih =>
    have hc := reference?_eq_none.1 h
    rw [substitute_cons env hc]
    exact ih.cons hc

/-- Replacing the leftmost references one after the other is joining the values of the pieces. -/
theorem substituted_iff {env : String → String} {cs out : List Char} :
    Substituted env cs out ↔ out = substitute env cs := by
  constructor
  · intro h
    induction h with
    | @plain cs hplain =>
      have happend : substitute env (cs ++ []) = cs ++ substitute env [] := by
        refine substitute_append env fun x y hxy _ => ?_
        rw [List.append_nil]
        exact hplain x y hxy
      simpa [substitute_nil] using happend.symm
    | reference hname hfirst _ ih =>
      rw [substitute_append env hfirst, substitute_of_reference env hname, ih]
  · rintro rfl
    exact substituted_substitute env cs

/-! ## Texts that substitution leaves alone -/

theorem references_cons_reference (name : String) (ps : List Piece) :
    references (.reference name :: ps) = name :: references ps := rfl

theorem references_cons_text (cs : List Char) (ps : List Piece) :
    references (.text cs :: ps) = references ps := rfl

/-- With empty values, every reference takes its mark and its braces away. -/
theorem length_flatMap_value_empty (ps : List Piece) :
    (ps.flatMap (Piece.value fun _ => "")).length + 3 * (references ps).length ≤
      (ps.flatMap Piece.write).length := by
  induction ps with
  | nil => simp [references]
  | cons p ps ih =>
    rw [List.flatMap_cons, List.flatMap_cons, List.length_append, List.length_append]
    cases p with
    | text cs =>
      rw [references_cons_text]
      have hsame : (Piece.text cs).value (fun _ => "") = (Piece.text cs).write := rfl
      rw [hsame]
      omega
    | reference name =>
      have hvalue : ((Piece.reference name).value fun _ => "").length = 0 := rfl
      have hwrite : (Piece.reference name).write.length = name.toList.length + 3 := by
        simp [Piece.write]
      rw [references_cons_reference, List.length_cons, hvalue, hwrite]
      omega

theorem flatMap_value_of_no_references (env : String → String) {ps : List Piece}
    (h : references ps = []) : ps.flatMap (Piece.value env) = ps.flatMap Piece.write := by
  induction ps with
  | nil => rfl
  | cons p ps ih =>
    cases p with
    | text cs =>
      rw [references_cons_text] at h
      rw [List.flatMap_cons, List.flatMap_cons, ih h]
      rfl
    | reference name => cases h

/-- Substitution leaves a text alone, whatever the values, if and only if the text refers to
nothing. -/
theorem substitute_eq_self_iff {cs : List Char} :
    (∀ env, substitute env cs = cs) ↔ references (scan cs) = [] := by
  constructor
  · intro h
    have hlength := length_flatMap_value_empty (scan cs)
    have hempty : (scan cs).flatMap (Piece.value fun _ => "") = cs := h fun _ => ""
    rw [hempty, write_scan] at hlength
    exact List.eq_nil_of_length_eq_zero (by omega)
  · intro h env
    rw [substitute, flatMap_value_of_no_references env h, write_scan]

/-! ## Plain text -/

theorem Alternates.tail {p : Piece} {ps : List Piece} (h : Alternates (p :: ps)) :
    Alternates ps := by
  cases p with
  | text cs => exact h.2.2
  | reference name => exact h

theorem Alternates.push {ps : List Piece} (h : Alternates ps) (c : Char) :
    Alternates (push c ps) := by
  cases ps with
  | nil => exact ⟨by simp, by simp, trivial⟩
  | cons p ps =>
    cases p with
    | text cs => exact ⟨by simp, h.2.1, h.2.2⟩
    | reference name => exact ⟨by simp, by simp, h⟩

theorem alternates_scan (cs : List Char) : Alternates (scan cs) := by
  fun_induction scan cs with
  | case1 => trivial
  | case2 c rest name after h ih => exact ih
  | case3 c rest h ih => exact ih.push c

end CestExport.Template
