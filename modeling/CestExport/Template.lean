import CestExport.Text.Cut

/-!
# References in recorded texts

A recorded text refers to a variable as `${name}`, with a name that is not empty
and holds no `}`.  References are found from left to right and do not overlap.
What is made of a text is made of its references and of the texts between them:
either a value is collected for each of them, or each reference is replaced and
the rest stays.

    reference? cs = some (name, rest)  →  cs is ${name} and rest     (reference?_eq_some)
-/

namespace CestExport.Template

open CestExport.Text

/-- A reference in a text: where it begins, where it ends, and the name in it. -/
structure Span where
  start : Nat
  stop : Nat
  name : String
deriving DecidableEq, Repr

/-! ## Algorithm -/

/-- The name of the reference that begins here, and what follows the reference. -/
def reference? : List Char → Option (List Char × List Char)
  | '$' :: '{' :: cs =>
    match cutFirstChars '}' cs with
    | some (c :: name, rest) => some (c :: name, rest)
    | _ => none
  | _ => none

theorem reference?_eq_some {cs name rest : List Char} (h : reference? cs = some (name, rest)) :
    cs = '$' :: '{' :: (name ++ '}' :: rest) ∧ name ≠ [] ∧ '}' ∉ name := by
  unfold reference? at h
  split at h
  next ds =>
    split at h
    next c n r hcut =>
      obtain ⟨rfl, rfl⟩ : c :: n = name ∧ r = rest := by simpa using h
      obtain ⟨rfl, hmem⟩ := cutFirstChars_eq hcut
      exact ⟨rfl, by simp, hmem⟩
    next => simp at h
  next => simp at h

theorem length_lt_of_reference? {cs name rest : List Char}
    (h : reference? cs = some (name, rest)) : rest.length < cs.length := by
  rw [(reference?_eq_some h).1]
  simp only [List.length_cons, List.length_append]
  omega

/-- The references of a text that stands behind `position` characters. -/
def spans (position : Nat) (cs : List Char) : List Span :=
  match cs with
  | [] => []
  | c :: rest =>
    match _h : reference? (c :: rest) with
    | some (name, after) =>
      let stop := position + (name.length + 3)
      ⟨position, stop, String.ofList name⟩ :: spans stop after
    | none => spans (position + 1) rest
termination_by cs.length
decreasing_by
  · exact length_lt_of_reference? _h
  · simp

/-- The text from a position up to another one. -/
def slice (cs : List Char) (start stop : Nat) : List Char :=
  (cs.drop start).take (stop - start)

/-- One value for each reference behind a position, and one for each text in front of, between and
behind the references, unless it is empty. -/
def collectFrom {α : Type} (text reference : String → α) (cs : List Char) :
    Nat → List Span → List α
  | position, [] => if position < cs.length then [text (String.ofList (cs.drop position))] else []
  | position, m :: ms =>
    (if position < m.start then [text (String.ofList (slice cs position m.start))] else []) ++
      reference m.name :: collectFrom text reference cs m.stop ms

/-- The values of the references of a text and of the texts between them, in order. -/
def collect {α : Type} (text reference : String → α) (s : String) : List α :=
  collectFrom text reference s.toList 0 (spans 0 s.toList)

/-- The text behind a position with values in the place of its references.  The values are made one
after the other, each from what the one before has left. -/
def replaceFrom {σ : Type} (value : σ → String → String × σ) (cs : List Char) :
    σ → Nat → List Span → List Char × σ
  | state, position, [] => (cs.drop position, state)
  | state, position, m :: ms =>
    let (v, next) := value state m.name
    let (rest, last) := replaceFrom value cs next m.stop ms
    (slice cs position m.start ++ (v.toList ++ rest), last)

/-- A text with values in the place of its references, and what the last of them has left. -/
def replaceAll {σ : Type} (value : σ → String → String × σ) (state : σ) (s : String) :
    String × σ :=
  let (cs, last) := replaceFrom value s.toList state 0 (spans 0 s.toList)
  (String.ofList cs, last)

/-- The name, if the text is a single reference. -/
def single? (s : String) : Option String :=
  match reference? s.toList with
  | some (name, []) => some (String.ofList name)
  | _ => none

end CestExport.Template
