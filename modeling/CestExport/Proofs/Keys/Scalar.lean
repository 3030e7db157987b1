import CestExport.Keys
import CestExport.Proofs.Php.Assignment
import CestExport.Proofs.Php.Delimited

/-!
# Which plain texts pass as reads

A plain text as key input is kept as it is if it is taken for the read of a variable,
and becomes a literal if not.  A read is a mark, a literal whose quotes and
backslashes are escaped, and a bracket; but every text that begins with the mark is
taken for one, whatever follows the mark.

    Escaped body  ↔  body = escape cs for some cs                        (escaped_iff)
    e = read n for some n  ↔  e is the mark, an escaped literal, a bracket
                                                                      (exists_read_iff)
    reads and all else are told apart at e  ↔  e is a read if it has the mark
                                                                        (toldApart_iff)
-/

namespace CestExport

/-! ## Algorithm -/

/-- What stands between the quotes of a literal when all that need be is escaped, and nothing
else. -/
inductive Php.Escaped : List Char → Prop
  | nil : Escaped []
  | plain {c : Char} {cs : List Char} :
    c ≠ '\\' → c ≠ '\'' → Escaped cs → Escaped (c :: cs)
  | escape {c : Char} {cs : List Char} :
    c = '\\' ∨ c = '\'' → Escaped cs → Escaped ('\\' :: c :: cs)

open Php

/-- A plain text at which reads are told from all else: it is taken for a read and kept as it is if
and only if it is the read of some variable, and otherwise becomes a literal, which is read as the
text. -/
structure Keys.ToldApart (e : String) : Prop where
  taken : isRead e = true ↔ ∃ n, e = read n
  kept : scalarArgument e = e ↔ ∃ n, e = read n
  literal : (¬∃ n, e = read n) → ReadsLiteral (scalarArgument e).toList e.toList []

/-! ## Reads -/

namespace Php

theorem escaped_escape (cs : List Char) : Escaped (escape cs) := by
  induction cs with
  | nil => exact .nil
  | cons c cs ih =>
    by_cases h : c = '\\' ∨ c = '\''
    · rw [escape, if_pos h]
      exact .escape h ih
    · rw [escape, if_neg h]
      exact .plain (fun hc => h (.inl hc)) (fun hc => h (.inr hc)) ih

/-- What is escaped is the escaped form of some text. -/
theorem escaped_iff {body : List Char} : Escaped body ↔ ∃ cs, body = escape cs := by
  constructor
  · intro h
    induction h with
    | nil => exact ⟨[], rfl⟩
    | @plain c _ hbackslash hquote _ ih =>
      obtain ⟨cs, rfl⟩ := ih
      have hc : ¬(c = '\\' ∨ c = '\'') := by
        rintro (hc | hc)
        · exact hbackslash hc
        · exact hquote hc
      exact ⟨c :: cs, by rw [escape, if_neg hc]⟩
    | @escape c _ hc _ ih =>
      obtain ⟨cs, rfl⟩ := ih
      exact ⟨c :: cs, by rw [escape, if_pos hc]⟩
  · rintro ⟨cs, rfl⟩
    exact escaped_escape cs

/-- The reads of variables, as a language of their own. -/
theorem exists_read_iff {e : String} : (∃ n, e = read n) ↔
    ∃ body, Escaped body ∧ e.toList = readMark.toList ++ '\'' :: (body ++ ['\'', ']']) := by
  have hwritten : ∀ n, (read n).toList =
      readMark.toList ++ '\'' :: (escape n.toList ++ ['\'', ']']) := by
    intro n
    rw [toList_read, quoteChars, List.cons_append, List.append_assoc]
    rfl
  constructor
  · rintro ⟨n, rfl⟩
    exact ⟨escape n.toList, escaped_escape n.toList, hwritten n⟩
  · rintro ⟨body, hbody, he⟩
    obtain ⟨cs, rfl⟩ := escaped_iff.1 hbody
    refine ⟨String.ofList cs, String.toList_inj.1 ?_⟩
    rw [hwritten, String.toList_ofList, he]

theorem isRead_iff {e : String} : isRead e = true ↔ readMark.toList <+: e.toList :=
  beginsWith_iff

theorem isRead_read (n : String) : isRead (read n) = true := by
  rw [isRead_iff, toList_read]
  exact List.prefix_append _ _

theorem length_le_escape (cs : List Char) : cs.length ≤ (escape cs).length := by
  induction cs with
  | nil => simp
  | cons c cs ih =>
    rw [escape]
    split
    next =>
      simp only [List.length_cons]
      omega
    next =>
      simp only [List.length_cons]
      omega

/-- The literal of a text is longer than the text. -/
theorem quote_ne (s : String) : quote s ≠ s := by
  intro h
  have hlength := congrArg (fun t => t.toList.length) h
  have hescape := length_le_escape s.toList
  simp only [toList_quote, quoteChars, List.length_cons, List.length_append, List.length_nil]
    at hlength
  omega

end Php

/-! ## Plain key input -/

namespace Keys

theorem scalarArgument_of_isRead {e : String} (h : isRead e = true) : scalarArgument e = e :=
  if_pos h

theorem scalarArgument_of_not_isRead {e : String} (h : isRead e = false) :
    scalarArgument e = quote e := by
  rw [scalarArgument, h]
  rfl

theorem scalarArgument_eq_self_iff {e : String} : scalarArgument e = e ↔ isRead e = true := by
  cases h : isRead e with
  | true => exact iff_of_true (scalarArgument_of_isRead h) rfl
  | false =>
    rw [scalarArgument_of_not_isRead h]
    exact iff_of_false (quote_ne e) (by simp)

/-- A text without the mark becomes the literal of itself. -/
theorem readsLiteral_scalarArgument {e : String} (h : isRead e = false) :
    ReadsLiteral (scalarArgument e).toList e.toList [] := by
  have hscan := scan?_quote e ""
  rw [String.append_empty] at hscan
  rw [scalarArgument_of_not_isRead h]
  exact readsLiteral_iff.2 hscan

/-- Telling apart fails only where a text is taken for a read and is none. -/
theorem toldApart_iff_of_isRead {e : String} :
    ToldApart e ↔ (isRead e = true → ∃ n, e = read n) := by
  constructor
  · intro h htaken
    exact h.taken.1 htaken
  · intro h
    have htaken : isRead e = true ↔ ∃ n, e = read n := by
      constructor
      · exact h
      · rintro ⟨n, rfl⟩
        exact isRead_read n
    refine ⟨htaken, scalarArgument_eq_self_iff.trans htaken, fun hnone => ?_⟩
    apply readsLiteral_scalarArgument
    rw [← Bool.not_eq_true, htaken]
    exact hnone

/-- Reads are told from all else at the texts that do not begin with the mark of a read, and at
those that go on behind it with a literal, in which just its quotes and backslashes are escaped, and
a bracket that ends the text.  A text that goes on in any other way is taken for a read and kept as
it is, although it is the read of no variable. -/
theorem toldApart_iff (e : String) :
    (ToldApart e ↔ ∀ rest, e.toList = readMark.toList ++ rest →
      ∃ body, Escaped body ∧ rest = '\'' :: (body ++ ['\'', ']'])) ∧
    (¬ToldApart e → isRead e = true ∧ scalarArgument e = e ∧ ∀ n, e ≠ read n) := by
  constructor
  · rw [toldApart_iff_of_isRead, exists_read_iff, isRead_iff]
    constructor
    · intro h rest he
      obtain ⟨body, hbody, hread⟩ := h ⟨rest, he.symm⟩
      rw [he, List.append_cancel_left_eq] at hread
      exact ⟨body, hbody, hread⟩
    · rintro h ⟨rest, hrest⟩
      obtain ⟨body, hbody, rfl⟩ := h rest hrest.symm
      exact ⟨body, hbody, hrest.symm⟩
  · intro hfails
    rw [toldApart_iff_of_isRead, Classical.not_imp] at hfails
    obtain ⟨htaken, hnone⟩ := hfails
    exact ⟨htaken, scalarArgument_of_isRead htaken, fun n hn => hnone ⟨n, hn⟩⟩

/-- A text that begins with a read and goes on with other code is pasted as it is. -/
theorem not_toldApart_continuedRead :
    let e := "$this->vars['a'].exec('id')"
    isRead e = true ∧ scalarArgument e = e ∧ ¬ToldApart e := by
  intro e
  have htaken : isRead e = true := by decide
  refine ⟨htaken, scalarArgument_of_isRead htaken, ?_⟩
  intro h
  obtain ⟨n, hn⟩ := h.taken.1 htaken
  obtain ⟨body, -, hbody⟩ := exists_read_iff.1 ⟨n, hn⟩
  have hbracket : e.toList = readMark.toList ++ '\'' :: (body ++ ['\'']) ++ [']'] := by
    rw [hbody]
    simp
  -- a read ends in its bracket, the text in one of another kind
  have hlast := congrArg List.getLast? hbracket
  rw [List.getLast?_concat] at hlast
  exact absurd hlast (by decide)

end Keys

end CestExport
