/-!
# Cutting texts

Texts are cut at single characters: at the first one, at the last one, or at
every one.

    cutFirst c s = some (a, b)  →  s = a ++ c ++ b, and c is not in a     (cutFirstChars_eq)
-/

namespace CestExport.Text

/-! ## Algorithm -/

/-- What stands before and after the first `c`. -/
def cutFirstChars (c : Char) : List Char → Option (List Char × List Char)
  | [] => none
  | d :: ds => if d = c then some ([], ds) else (cutFirstChars c ds).map fun p => (d :: p.1, p.2)

/-- What stands before and after the first `c`. -/
def cutFirst (c : Char) (s : String) : Option (String × String) :=
  (cutFirstChars c s.toList).map fun p => (String.ofList p.1, String.ofList p.2)

/-- What stands before and after the last `c`. -/
def cutLast (c : Char) (s : String) : Option (String × String) :=
  (cutFirstChars c s.toList.reverse).map fun p =>
    (String.ofList p.2.reverse, String.ofList p.1.reverse)

/-- What stands after the last `c`, or the whole text. -/
def afterLast (c : Char) (s : String) : String :=
  match cutLast c s with
  | some p => p.2
  | none => s

/-- The pieces between the characters that satisfy `p`, empty ones included. -/
def splitChars (p : Char → Bool) : List Char → List (List Char)
  | [] => [[]]
  | c :: cs =>
    match splitChars p cs with
    | [] => [[c]]
    | w :: ws => if p c then [] :: w :: ws else (c :: w) :: ws

/-- The pieces between the characters that satisfy `p`, empty ones included. -/
def split (p : Char → Bool) (s : String) : List String :=
  (splitChars p s.toList).map String.ofList

/-- What follows a given beginning. -/
def dropBeginning? : List Char → List Char → Option (List Char)
  | [], cs => some cs
  | b :: bs, c :: cs => if b = c then dropBeginning? bs cs else none
  | _ :: _, [] => none

/-- What follows the beginning `b` of a text that begins so. -/
def after? (b s : String) : Option String :=
  (dropBeginning? b.toList s.toList).map String.ofList

/-- Whether the text begins with `b`. -/
def beginsWith (b s : String) : Bool :=
  b.toList.isPrefixOf s.toList

/-! ## Lemmas -/

theorem cutFirstChars_eq {c : Char} {s a b : List Char} (h : cutFirstChars c s = some (a, b)) :
    s = a ++ c :: b ∧ c ∉ a := by
  induction s generalizing a with
  | nil => simp [cutFirstChars] at h
  | cons d ds ih =>
    simp only [cutFirstChars] at h
    split at h
    next hd => simp_all
    next hd =>
      obtain ⟨⟨p, r⟩, hp, he⟩ := Option.map_eq_some_iff.1 h
      simp only [Prod.mk.injEq] at he
      obtain ⟨rfl, rfl⟩ := he
      obtain ⟨h1, h2⟩ := ih hp
      exact ⟨by rw [List.cons_append, ← h1], by simp [h2, Ne.symm hd]⟩

theorem cutFirstChars_eq_none {c : Char} {s : List Char} :
    cutFirstChars c s = none ↔ c ∉ s := by
  induction s with
  | nil => simp [cutFirstChars]
  | cons d ds ih =>
    by_cases hd : d = c
    · simp [cutFirstChars, hd]
    · simp [cutFirstChars, hd, ih, Ne.symm hd]

theorem dropBeginning?_eq_some {b s r : List Char} :
    dropBeginning? b s = some r ↔ s = b ++ r := by
  induction b generalizing s with
  | nil => simp [dropBeginning?]
  | cons c cs ih =>
    cases s with
    | nil => simp [dropBeginning?]
    | cons d ds =>
      by_cases h : c = d
      · simp [dropBeginning?, h, ih]
      · simp [dropBeginning?, h, Ne.symm h]

end CestExport.Text
