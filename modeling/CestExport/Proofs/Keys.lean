import CestExport.Proofs.Php.Brackets

/-!
# The parts of key input

A reference whose name begins with the mark of keys is a key; any other reference
is a variable.

    .key k ∈ split s  ↔  s refers to keyMark ++ k                          (key_mem_split)
    closed constants for all keys  →  Closed 0 (arguments (split s))         (closed_arguments)
-/

namespace CestExport.Keys

open Php

theorem after?_eq_some {b s r : String} : Text.after? b s = some r ↔ s = b ++ r := by
  unfold Text.after?
  rw [Option.map_eq_some_iff]
  constructor
  · rintro ⟨cs, hcs, rfl⟩
    rw [Text.dropBeginning?_eq_some] at hcs
    rw [← String.toList_inj, hcs, String.toList_append, String.toList_ofList]
  · intro h
    refine ⟨r.toList, ?_, String.ofList_toList⟩
    rw [Text.dropBeginning?_eq_some, h, String.toList_append]

/-! ## Tokens -/

theorem ofPiece_text (cs : List Char) :
    Token.ofPiece (.text cs) = .literal (String.ofList cs) := rfl

theorem ofPiece_key (k : String) :
    Token.ofPiece (.reference (keyMark ++ k)) = .key k := by
  simp only [Token.ofPiece, Token.ofReference, after?_eq_some.2 rfl]

theorem ofPiece_variable {name : String} (h : Text.after? keyMark name = none) :
    Token.ofPiece (.reference name) = .variable (read name) := by
  simp only [Token.ofPiece, Token.ofReference, h]

theorem ofPiece_eq_key {p : Template.Piece} {k : String} :
    Token.ofPiece p = .key k ↔ p = .reference (keyMark ++ k) := by
  constructor
  · intro h
    cases p with
    | text cs => simp [ofPiece_text] at h
    | reference name =>
      cases hk : Text.after? keyMark name with
      | none => simp [ofPiece_variable hk] at h
      | some k' =>
        obtain rfl := after?_eq_some.1 hk
        rw [ofPiece_key] at h
        cases h
        rfl
  · rintro rfl
    exact ofPiece_key k

theorem mem_references {ps : List Template.Piece} {name : String} :
    name ∈ Template.references ps ↔ .reference name ∈ ps := by
  rw [Template.references, List.mem_filterMap]
  constructor
  · rintro ⟨p, hp, h⟩
    cases p with
    | text cs => simp at h
    | reference n =>
      cases h
      exact hp
  · intro h
    exact ⟨_, h, rfl⟩

theorem key_mem_split {s k : String} :
    .key k ∈ split s ↔ keyMark ++ k ∈ Template.references (Template.pieces s) := by
  rw [mem_references, split_eq_map, List.mem_map]
  constructor
  · rintro ⟨p, hp, h⟩
    rwa [← ofPiece_eq_key.1 h]
  · intro h
    exact ⟨_, h, ofPiece_key k⟩

/-! ## Arguments -/

theorem closed_argument {p : Template.Piece}
    (h : ∀ k, Token.ofPiece p = .key k → Closed 0 (constant k)) :
    Closed 0 (Token.ofPiece p).argument := by
  cases p with
  | text cs => exact closed_quote _
  | reference name =>
    cases hk : Text.after? keyMark name with
    | none =>
      rw [ofPiece_variable hk]
      exact closed_read name
    | some k =>
      obtain rfl := after?_eq_some.1 hk
      rw [ofPiece_key]
      exact h k (ofPiece_key k)

/-- Key input is closed if the constants for its keys are. -/
theorem closed_arguments {s : String} (h : ∀ k, .key k ∈ split s → Closed 0 (constant k)) :
    Closed 0 (arguments (split s)) := by
  unfold arguments
  split
  next => exact closed_quote ""
  next =>
    refine closed_intercalate ", " rfl ?_
    intro argument hmem
    obtain ⟨token, htoken, rfl⟩ := List.mem_map.1 hmem
    obtain ⟨p, _, rfl⟩ := List.mem_map.1 (split_eq_map s ▸ htoken)
    exact closed_argument fun k hk => h k (hk ▸ htoken)

end CestExport.Keys
