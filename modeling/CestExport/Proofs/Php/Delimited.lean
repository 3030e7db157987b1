import CestExport.Proofs.Php.Literal

/-!
# A literal delimits itself

A reader of literals takes the two escapes and every other character as they come,
and stops at the first quote that is not escaped.  The literal of a text is made by
escaping its backslashes first and its quotes afterwards; whatever the text ends
in and whatever follows, the reader stops at the quote that closes the literal.

    ReadsBody cs s rest  ↔  scanBody? cs = some (s, rest)                  (readsBody_iff)
    escape cs = (cs with backslashes doubled, then quotes escaped)       (escape_eq_replace)
    a literal in front of any text is read as its own text, no sooner than at its
      end, and begins no text that another literal begins           (quote_selfDelimiting)
-/

namespace CestExport.Php

/-! ## Algorithm -/

/-- The text with a character replaced wherever it stands. -/
def replace (c : Char) (new cs : List Char) : List Char :=
  cs.flatMap fun d => if d = c then new else [d]

/-- What stands behind an opening quote, as PHP reads it: the text of the literal, and what follows
its closing quote. -/
inductive ReadsBody : List Char → List Char → List Char → Prop
  | close (rest : List Char) : ReadsBody ('\'' :: rest) [] rest
  | escape {c : Char} {cs s rest : List Char} (hc : c = '\\' ∨ c = '\'') :
    ReadsBody cs s rest → ReadsBody ('\\' :: c :: cs) (c :: s) rest
  /-- A backslash in front of any other character stands for itself. -/
  | plain {c : Char} {cs s rest : List Char} (hquote : c ≠ '\'')
    (hescape : c = '\\' → ∀ d ds, cs = d :: ds → d ≠ '\\' ∧ d ≠ '\'') :
    ReadsBody cs s rest → ReadsBody (c :: cs) (c :: s) rest

/-- A program text that begins with a literal: the text of the literal, and what follows. -/
def ReadsLiteral (cs s rest : List Char) : Prop :=
  ∃ body, cs = '\'' :: body ∧ ReadsBody body s rest

/-! ## Readers -/

theorem readsBody_iff {cs s rest : List Char} :
    ReadsBody cs s rest ↔ scanBody? cs = some (s, rest) := by
  constructor
  · intro h
    induction h with
    | close rest => simp [scanBody?]
    | escape hc _ ih => rcases hc with rfl | rfl <;> simp [scanBody?, ih]
    | plain hquote hescape _ ih =>
      rw [scanBody?_cons hquote hescape, ih]
      rfl
  · intro h
    fun_induction scanBody? cs generalizing s rest with
    | case1 => cases h
    | case2 r =>
      cases h
      exact .close r
    | case3 r ih =>
      obtain ⟨⟨t, r'⟩, hr, he⟩ := Option.map_eq_some_iff.1 h
      cases he
      exact .escape (.inl rfl) (ih hr)
    | case4 r ih =>
      obtain ⟨⟨t, r'⟩, hr, he⟩ := Option.map_eq_some_iff.1 h
      cases he
      exact .escape (.inr rfl) (ih hr)
    | case5 c r hquote hbackslash hescaped ih =>
      obtain ⟨⟨t, r'⟩, hr, he⟩ := Option.map_eq_some_iff.1 h
      cases he
      refine .plain hquote (fun hc d ds hd => ⟨?_, ?_⟩) (ih hr)
      · exact fun he => hbackslash ds hc (by rw [hd, he])
      · exact fun he => hescaped ds hc (by rw [hd, he])

theorem readsLiteral_iff {cs s rest : List Char} :
    ReadsLiteral cs s rest ↔ scan? cs = some (s, rest) := by
  constructor
  · rintro ⟨body, rfl, hbody⟩
    exact readsBody_iff.1 hbody
  · intro h
    unfold scan? at h
    split at h
    next body => exact ⟨body, rfl, readsBody_iff.2 h⟩
    next => cases h

/-! ## Literals -/

theorem replace_cons (c d : Char) (new cs : List Char) :
    replace c new (d :: cs) = (if d = c then new else [d]) ++ replace c new cs := rfl

theorem replace_append (c : Char) (new xs ys : List Char) :
    replace c new (xs ++ ys) = replace c new xs ++ replace c new ys :=
  List.flatMap_append

/-- Escaping quotes afterwards leaves the backslashes alone that were doubled before. -/
theorem escape_eq_replace (cs : List Char) :
    escape cs = replace '\'' ['\\', '\''] (replace '\\' ['\\', '\\'] cs) := by
  induction cs with
  | nil => rfl
  | cons c cs ih =>
    rw [replace_cons, replace_append, ← ih, escape]
    by_cases hb : c = '\\'
    · simp [hb, replace]
    · by_cases hq : c = '\''
      · simp [hq, replace]
      · simp [hb, hq, replace]

theorem toList_quote (v : String) : (quote v).toList = quoteChars v.toList := by
  simp [quote]

theorem scan?_quote (v s : String) : scan? (quote v ++ s).toList = some (v.toList, s.toList) := by
  rw [String.toList_append, toList_quote, scan?_quoteChars]

theorem scan?_append {cs s rest : List Char} (h : scan? cs = some (s, rest)) (more : List Char) :
    scan? (cs ++ more) = some (s, rest ++ more) := by
  obtain ⟨body, rfl, hbody⟩ := readsLiteral_iff.2 h
  exact scanBody?_append (readsBody_iff.1 hbody) more

/-- A literal is not read before its last character. -/
theorem length_le_of_scan?_take {v : String} {n : Nat} {s rest : List Char}
    (h : scan? ((quote v).toList.take n) = some (s, rest)) : (quote v).toList.length ≤ n := by
  have hwhole := scan?_append h ((quote v).toList.drop n)
  have hquote := scan?_quote v ""
  rw [String.append_empty] at hquote
  rw [List.take_append_drop, hquote, Option.some.injEq, Prod.mk.injEq] at hwhole
  have hnothing := (List.append_eq_nil_iff.1 hwhole.2.symm).2
  exact List.drop_eq_nil_iff.1 hnothing

theorem quote_append_inj {v w s t : String} :
    quote v ++ s = quote w ++ t ↔ v = w ∧ s = t := by
  constructor
  · intro h
    have hscan := scan?_quote v s
    rw [h, scan?_quote, Option.some.injEq, Prod.mk.injEq] at hscan
    exact ⟨String.toList_inj.1 hscan.1.symm, String.toList_inj.1 hscan.2.symm⟩
  · rintro ⟨rfl, rfl⟩
    rfl

/-- The literal of a text has its backslashes and its quotes escaped, one kind after the other.  In
front of any text it is read in one way: as the text it is the literal of, up to its last
character.  Reading it needs all its characters, and literals of different texts begin no common
text. -/
theorem quote_selfDelimiting (v s : String) :
    (quote v).toList =
      '\'' :: (replace '\'' ['\\', '\''] (replace '\\' ['\\', '\\'] v.toList) ++ ['\'']) ∧
    (∀ value rest, ReadsLiteral (quote v ++ s).toList value rest ↔
      value = v.toList ∧ rest = s.toList) ∧
    (∀ n, (∃ value rest, ReadsLiteral ((quote v).toList.take n) value rest) ↔
      (quote v).toList.length ≤ n) ∧
    ∀ w t, quote v ++ s = quote w ++ t ↔ v = w ∧ s = t := by
  refine ⟨?_, fun value rest => ?_, fun n => ?_, fun w t => quote_append_inj⟩
  · rw [toList_quote, quoteChars, escape_eq_replace]
  · rw [readsLiteral_iff, scan?_quote, Option.some.injEq, Prod.mk.injEq, eq_comm,
      eq_comm (a := s.toList)]
  · constructor
    · rintro ⟨value, rest, hread⟩
      exact length_le_of_scan?_take (readsLiteral_iff.1 hread)
    · intro hn
      refine ⟨v.toList, [], readsLiteral_iff.2 ?_⟩
      have hquote := scan?_quote v ""
      rw [String.append_empty] at hquote
      rw [List.take_of_length_le hn, hquote]
      rfl

/-- A text that ends in backslashes and quotes does not reach for the quote that closes it. -/
example : scan? (quote "\\'\\\\" ++ "' . 'x'").toList = some ("\\'\\\\".toList, "' . 'x'".toList) := by
  decide +kernel

end CestExport.Php
