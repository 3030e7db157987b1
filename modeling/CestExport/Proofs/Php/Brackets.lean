import CestExport.Proofs.Template.Position

/-!
# Brackets outside literals

A scan reads a text of generated code from left to right.  Inside a literal a
backslash takes the next character with it and the quote ends the literal;
outside, round and square brackets have to close in the order in which they
were opened, and braces are counted.  A text is `Closed` if the scan ends
outside any literal with no bracket open.

    Closed j a  →  Closed k b  →  Closed (j + k) (a ++ b)                  (Closed.append)
    Closed 0 (quote s)                                                       (closed_quote)
    fixed texts that close by themselves stay closed around closed ones  (closed_template)
-/

namespace CestExport.Php

/-! ## Algorithm -/

/-- Outside literals, or inside one of a quote, possibly behind a backslash. -/
inductive Mode
  | code
  | literal (mark : Char) (escaped : Bool)
deriving DecidableEq, Repr

/-- The brackets that have to match. -/
inductive Bracket
  | round
  | square
deriving DecidableEq, Repr

/-- A scan of generated code: where it is, which brackets are open, the innermost first, and how
many more braces were opened than closed. -/
structure Scan where
  mode : Mode := .code
  pending : List Bracket := []
  braces : Int := 0
deriving DecidableEq, Repr

/-- What a character can mean outside literals. -/
inductive Mark
  | quote
  | braceOpen
  | braceClose
  | opening (b : Bracket)
  | closing (b : Bracket)
  | silent
deriving DecidableEq, Repr

/-- What a character means outside literals. -/
def Mark.of : Char → Mark
  | '\'' | '"' => .quote
  | '{' => .braceOpen
  | '}' => .braceClose
  | '(' => .opening .round
  | '[' => .opening .square
  | ')' => .closing .round
  | ']' => .closing .square
  | _ => .silent

namespace Scan

/-- Closes a bracket, which has to be the innermost one that is open. -/
def close (s : Scan) (b : Bracket) : Option Scan :=
  match s.pending with
  | [] => none
  | p :: ps => if p = b then some { s with pending := ps } else none

/-- One character outside literals. -/
def codeStep (s : Scan) (c : Char) : Option Scan :=
  match Mark.of c with
  | .quote => some { s with mode := .literal c false }
  | .braceOpen => some { s with braces := s.braces + 1 }
  | .braceClose => some { s with braces := s.braces - 1 }
  | .opening b => some { s with pending := b :: s.pending }
  | .closing b => s.close b
  | .silent => some s

/-- One character. -/
def step (s : Scan) (c : Char) : Option Scan :=
  match s.mode with
  | .code => s.codeStep c
  | .literal q true => some { s with mode := .literal q false }
  | .literal q false =>
    if c = '\\' then some { s with mode := .literal q true }
    else if c = q then some { s with mode := .code }
    else some s

/-- All characters of a text. -/
def run (s : Scan) : List Char → Option Scan
  | [] => some s
  | c :: cs => (s.step c).bind (·.run cs)

/-- The scan with more brackets open and more braces counted before it began. -/
def within (s : Scan) (outer : List Bracket) (braces : Int) : Scan :=
  { s with pending := s.pending ++ outer, braces := braces + s.braces }

end Scan

/-- By how much the braces opened in a text exceed those closed in it, if the text ends outside
literals and its other brackets match. -/
def braces? (text : String) : Option Int :=
  match Scan.run {} text.toList with
  | some ⟨.code, [], k⟩ => some k
  | _ => none

/-- A text that ends outside literals, with matching brackets and `k` more braces opened than
closed. -/
def Closed (k : Int) (text : String) : Prop :=
  braces? text = some k

/-- A text that begins with a closing brace. -/
def beginsClosing (text : String) : Bool :=
  text.toList.head? == some '}'

/-- Fixed texts around others: a first one, and one behind each hole. -/
def template (first : String) : List String → List String → String
  | hole :: holes, next :: fixed => template (first ++ hole ++ next) holes fixed
  | _, _ => first

/-- A scan of fixed texts; between two of them it has to be outside literals. -/
def Scan.runFixed (s : Scan) : List String → Option Scan
  | [] => some s
  | t :: ts => if s.mode = .code then (s.run t.toList).bind (·.runFixed ts) else none

/-! ## Lemmas -/

namespace Scan

theorem run_append (s : Scan) (a b : List Char) :
    s.run (a ++ b) = (s.run a).bind (·.run b) := by
  induction a generalizing s with
  | nil => rfl
  | cons c cs ih =>
    simp only [List.cons_append, run, Option.bind_assoc]
    congr 1
    funext t
    exact ih t

theorem close_within {s s' : Scan} {b : Bracket} (outer : List Bracket) (k : Int)
    (h : s.close b = some s') : (s.within outer k).close b = some (s'.within outer k) := by
  obtain ⟨mode, pending, n⟩ := s
  cases pending with
  | nil => simp [close] at h
  | cons p ps =>
    simp only [close] at h
    split at h
    next hp =>
      cases h
      simp [close, within, hp]
    next => simp at h

theorem codeStep_within {s s' : Scan} {c : Char} (outer : List Bracket) (k : Int)
    (h : s.codeStep c = some s') : (s.within outer k).codeStep c = some (s'.within outer k) := by
  unfold codeStep at h ⊢
  cases hm : Mark.of c with
  | closing b =>
    rw [hm] at h
    exact close_within outer k h
  | braceOpen =>
    rw [hm] at h
    cases h
    simp [within, Int.add_assoc]
  | braceClose =>
    rw [hm] at h
    cases h
    simp [within, Int.add_sub_assoc]
  | quote | opening _ | silent =>
    rw [hm] at h
    cases h
    rfl

/-- What surrounds a text does not change how it is read. -/
theorem step_within {s s' : Scan} {c : Char} (outer : List Bracket) (k : Int)
    (h : s.step c = some s') : (s.within outer k).step c = some (s'.within outer k) := by
  obtain ⟨mode, pending, n⟩ := s
  cases mode with
  | code => exact codeStep_within outer k h
  | literal q escaped =>
    cases escaped with
    | true =>
      cases h
      rfl
    | false =>
      simp only [step, within] at h ⊢
      split at h
      next hc =>
        cases h
        rw [if_pos hc]
      next hc =>
        rw [if_neg hc]
        split at h
        next hq =>
          cases h
          rw [if_pos hq]
        next hq =>
          cases h
          rw [if_neg hq]

theorem run_within {s s' : Scan} {cs : List Char} (outer : List Bracket) (k : Int)
    (h : s.run cs = some s') : (s.within outer k).run cs = some (s'.within outer k) := by
  induction cs generalizing s with
  | nil =>
    cases h
    rfl
  | cons c cs ih =>
    obtain ⟨t, ht, hrun⟩ := Option.bind_eq_some_iff.1 h
    rw [run, step_within outer k ht]
    exact ih hrun

end Scan

theorem closed_iff {k : Int} {text : String} :
    Closed k text ↔ Scan.run {} text.toList = some ⟨.code, [], k⟩ := by
  unfold Closed braces?
  split
  next n h => simp [h]
  next h =>
    constructor
    · intro hn
      simp at hn
    · intro hk
      exact absurd hk (h k)

/-- A closed text is passed over wherever it stands outside literals. -/
theorem Closed.run {k : Int} {text : String} (h : Closed k text) (s : Scan)
    (hs : s.mode = .code) : s.run text.toList = some { s with braces := s.braces + k } := by
  have hrun := Scan.run_within s.pending s.braces (closed_iff.1 h)
  obtain ⟨mode, pending, n⟩ := s
  subst hs
  simpa [Scan.within] using hrun

theorem Closed.append {j k : Int} {a b : String} (ha : Closed j a) (hb : Closed k b) :
    Closed (j + k) (a ++ b) := by
  rw [closed_iff, String.toList_append, Scan.run_append, closed_iff.1 ha]
  simpa using hb.run ⟨.code, [], j⟩ rfl

theorem closed_empty : Closed 0 "" := rfl

/-- Texts in a list, separated by a closed text. -/
theorem closed_intercalate (sep : String) (hsep : Closed 0 sep) {texts : List String}
    (h : ∀ t ∈ texts, Closed 0 t) : Closed 0 (sep.intercalate texts) := by
  induction texts with
  | nil => exact closed_empty
  | cons t ts ih =>
    cases ts with
    | nil => simpa using h t (by simp)
    | cons u us =>
      rw [String.intercalate_cons_cons]
      have hrest := ih fun x hx => h x (List.mem_cons_of_mem t hx)
      exact ((h t (by simp)).append hsep).append hrest

/-! ## Literals -/

theorem run_escape (cs : List Char) (pending : List Bracket) (k : Int) (rest : List Char) :
    Scan.run ⟨.literal '\'' false, pending, k⟩ (escape cs ++ rest) =
      Scan.run ⟨.literal '\'' false, pending, k⟩ rest := by
  induction cs with
  | nil => rfl
  | cons c cs ih =>
    by_cases hc : c = '\\' ∨ c = '\''
    · simp [escape, hc, Scan.run, Scan.step, ih]
    · obtain ⟨hb, hq⟩ := not_or.1 hc
      simp [escape, hb, hq, Scan.run, Scan.step, ih]

theorem closed_quote (s : String) : Closed 0 (quote s) := by
  rw [closed_iff, quote, String.toList_ofList, quoteChars, Scan.run]
  exact run_escape s.toList [] 0 ['\'']

theorem closed_read (name : String) : Closed 0 (read name) := by
  rw [closed_iff, read, String.toList_append, String.toList_append, Scan.run_append,
    Scan.run_append]
  have hopen : Scan.run {} readMark.toList = some ⟨.code, [.square], 0⟩ := rfl
  rw [hopen, Option.bind_some, (closed_quote name).run _ rfl]
  rfl

theorem closed_operand (p : Template.Piece) : Closed 0 (operand p) := by
  cases p with
  | text cs => exact closed_quote _
  | reference name => exact closed_read name

theorem closed_text (s : String) : Closed 0 (text s) := by
  by_cases hpieces : Template.pieces s = []
  · rw [text_of_nil hpieces]
    exact closed_quote ""
  · rw [text_eq hpieces]
    apply closed_intercalate " . " rfl
    intro t ht
    obtain ⟨p, _, rfl⟩ := List.mem_map.1 ht
    exact closed_operand p

/-! ## Texts without marks -/

theorem closed_of_silent {text : String} (h : ∀ c ∈ text.toList, Mark.of c = .silent) :
    Closed 0 text := by
  have hrun : ∀ cs : List Char, (∀ c ∈ cs, Mark.of c = .silent) →
      Scan.run {} cs = some {} := by
    intro cs
    induction cs with
    | nil => intro _; rfl
    | cons c cs ih =>
      intro hcs
      simp only [Scan.run, Scan.step, Scan.codeStep, hcs c List.mem_cons_self]
      exact ih fun d hd => hcs d (List.mem_cons_of_mem c hd)
  exact closed_iff.2 (hrun text.toList h)

/-! ## Templates -/

/-- Fixed texts that close by themselves stay closed around closed texts. -/
theorem closed_template {k : Int} (first : String) (holes fixed : List String)
    (hlength : holes.length = fixed.length)
    (hfixed : Scan.runFixed {} (first :: fixed) = some ⟨.code, [], k⟩)
    (hholes : ∀ t ∈ holes, Closed 0 t) : Closed k (template first holes fixed) := by
  have hrun : ∀ (holes fixed : List String) (head : String) (s : Scan),
      holes.length = fixed.length → (∀ t ∈ holes, Closed 0 t) →
      Scan.run {} head.toList = some s → s.runFixed fixed = some ⟨.code, [], k⟩ →
      Scan.run {} (template head holes fixed).toList = some ⟨.code, [], k⟩ := by
    intro holes
    induction holes with
    | nil =>
      intro fixed head s hlength _ hs hfix
      obtain rfl := List.eq_nil_of_length_eq_zero hlength.symm
      cases hfix
      exact hs
    | cons t holes ih =>
      intro fixed head s hlength hc hs hfix
      cases fixed with
      | nil => simp at hlength
      | cons f fixed =>
        simp only [Scan.runFixed] at hfix
        split at hfix
        next hm =>
          obtain ⟨r, hr, hfix⟩ := Option.bind_eq_some_iff.1 hfix
          rw [List.forall_mem_cons] at hc
          refine ih fixed (head ++ t ++ f) r (by simpa using hlength) hc.2 ?_ hfix
          rw [String.toList_append, String.toList_append, Scan.run_append, Scan.run_append, hs,
            Option.bind_some, hc.1.run _ hm]
          simpa using hr
        next => simp at hfix
  obtain ⟨s, hs, hfix⟩ := Option.bind_eq_some_iff.1 hfixed
  exact closed_iff.2 (hrun holes fixed first s hlength hholes hs hfix)

end CestExport.Php
