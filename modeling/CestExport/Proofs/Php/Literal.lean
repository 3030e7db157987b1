import CestExport.Php.Literal

/-!
# Where a literal ends

A literal ends at its first quote that no backslash takes with it, whatever
follows.  `decode?` reads a literal of which only the last quote is one.

    decode? (escape cs) = some cs                                            (decode?_escape)
    two literals in front of any texts begin the same text only if equal       (eq_of_quoted)
    a quote behind a blank ends a literal at the latest               (scanBody?_blank_quote)
-/

namespace CestExport.Php

/-! ## Algorithm -/

/-- The text of a literal, given what stands between its quotes; nothing if the literal does not
end at its last quote. -/
def decode? (body : List Char) : Option (List Char) :=
  match scanBody? (body ++ ['\'']) with
  | some (cs, []) => some cs
  | _ => none

/-! ## Lemmas -/

/-- A character that neither ends a literal nor escapes what comes next stands for itself. -/
theorem scanBody?_cons {c : Char} {cs : List Char} (hquote : c ≠ '\'')
    (hescape : c = '\\' → ∀ d ds, cs = d :: ds → d ≠ '\\' ∧ d ≠ '\'') :
    scanBody? (c :: cs) = (scanBody? cs).map fun p => (c :: p.1, p.2) := by
  rw [scanBody?]
  · exact hquote
  · intro rest hc hcs
    exact (hescape hc '\\' rest hcs).1 rfl
  · intro rest hc hcs
    exact (hescape hc '\'' rest hcs).2 rfl

/-- What follows a literal does not change how it is read. -/
theorem scanBody?_append {cs s rest : List Char} (h : scanBody? cs = some (s, rest))
    (more : List Char) : scanBody? (cs ++ more) = some (s, rest ++ more) := by
  fun_induction scanBody? cs generalizing s rest with
  | case1 => simp at h
  | case2 r =>
    cases h
    simp [scanBody?]
  | case3 r ih | case4 r ih =>
    obtain ⟨⟨t, r'⟩, hr, he⟩ := Option.map_eq_some_iff.1 h
    cases he
    simp [scanBody?, ih hr]
  | case5 c r hq hb hbq ih =>
    obtain ⟨⟨t, r'⟩, hr, he⟩ := Option.map_eq_some_iff.1 h
    cases he
    rw [List.cons_append, scanBody?_cons hq, ih hr]
    · rfl
    · intro hc d ds hd
      -- a backslash that escapes nothing is not the last character
      cases r with
      | nil => simp [scanBody?] at hr
      | cons e es =>
        obtain ⟨rfl, _⟩ := List.cons.inj hd
        exact ⟨fun he => hb es hc (by rw [he]), fun he => hbq es hc (by rw [he])⟩

theorem decode?_eq_some {body cs : List Char} :
    decode? body = some cs ↔ scanBody? (body ++ ['\'']) = some (cs, []) := by
  unfold decode?
  split
  next h => simp [h]
  next h =>
    constructor
    · intro hn
      simp at hn
    · intro hs
      exact absurd hs (h cs)

theorem decode?_escape (cs : List Char) : decode? (escape cs) = some cs :=
  decode?_eq_some.2 (scanBody?_escape cs [])

/-- A literal ends at its last quote wherever it stands. -/
theorem scanBody?_of_decode? {body cs : List Char} (h : decode? body = some cs)
    (rest : List Char) : scanBody? (body ++ '\'' :: rest) = some (cs, rest) := by
  have hscan := scanBody?_append (decode?_eq_some.1 h) rest
  simpa using hscan

theorem eq_of_quoted {b b' cs cs' rest rest' : List Char} (h : decode? b = some cs)
    (h' : decode? b' = some cs') (heq : b ++ '\'' :: rest = b' ++ '\'' :: rest') :
    b = b' ∧ rest = rest' := by
  have hscan := scanBody?_of_decode? h rest
  rw [heq, scanBody?_of_decode? h' rest'] at hscan
  cases hscan
  exact ⟨List.append_cancel_right heq, rfl⟩

/-- What a literal reads is among what stands between its quotes. -/
theorem mem_of_scanBody? {cs s rest : List Char} (h : scanBody? cs = some (s, rest)) :
    ∀ c ∈ s, c ∈ cs := by
  fun_induction scanBody? cs generalizing s rest with
  | case1 => simp at h
  | case2 r =>
    cases h
    simp
  | case3 r ih | case4 r ih | case5 c r _ _ _ ih =>
    obtain ⟨⟨t, r'⟩, hr, he⟩ := Option.map_eq_some_iff.1 h
    cases he
    intro d hd
    rcases List.mem_cons.1 hd with rfl | hd
    · simp
    · have hmem := ih hr d hd
      simp [hmem]

theorem mem_escape {cs : List Char} {c : Char} (h : c ∈ escape cs) : c ∈ cs ∨ c = '\\' := by
  induction cs with
  | nil => simp [escape] at h
  | cons d ds ih =>
    have htail : c ∈ d :: escape ds → c ∈ d :: ds ∨ c = '\\' := by
      intro hc
      rcases List.mem_cons.1 hc with rfl | hc
      · exact .inl List.mem_cons_self
      · exact (ih hc).imp_left (List.mem_cons_of_mem d)
    rw [escape] at h
    split at h
    next =>
      rcases List.mem_cons.1 h with rfl | h
      · exact .inr rfl
      · exact htail h
    next => exact htail h

/-- A quote behind a blank ends a literal that has not ended before. -/
theorem scanBody?_blank_quote (u rest : List Char) :
    ∃ s r, scanBody? (u ++ ' ' :: '\'' :: rest) = some (s, r) ∧ rest.length ≤ r.length := by
  fun_induction scanBody? u with
  | case1 => exact ⟨[' '], rest, by simp [scanBody?], Nat.le_refl _⟩
  | case2 u => exact ⟨[], u ++ ' ' :: '\'' :: rest, by simp [scanBody?], by simp; omega⟩
  | case3 u ih =>
    obtain ⟨s, r, hs, hr⟩ := ih
    exact ⟨'\\' :: s, r, by simp [scanBody?, hs], hr⟩
  | case4 u ih =>
    obtain ⟨s, r, hs, hr⟩ := ih
    exact ⟨'\'' :: s, r, by simp [scanBody?, hs], hr⟩
  | case5 c u hq hb hbq ih =>
    obtain ⟨s, r, hs, hr⟩ := ih
    refine ⟨c :: s, r, ?_, hr⟩
    rw [List.cons_append, scanBody?_cons hq, hs]
    · rfl
    · intro hc d ds hd
      cases u with
      | nil =>
        obtain ⟨rfl, _⟩ := List.cons.inj hd
        exact ⟨by decide, by decide⟩
      | cons e es =>
        obtain ⟨rfl, _⟩ := List.cons.inj hd
        exact ⟨fun he => hb es hc (by rw [he]), fun he => hbq es hc (by rw [he])⟩

end CestExport.Php
