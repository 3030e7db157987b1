import CestExport.Keys
import CestExport.Proofs.Distinct
import CestExport.Proofs.Template.Cut
import CestExport.Script

/-!
# Parts of a text by their positions

References are found with the positions where they begin and end, and the texts
between them are taken from the end of one reference to the beginning of the next.
Behind whatever stands in front of a text, the parts that are found so are the
pieces of the text, in order and with nothing left out.

    the references of a text that is cut stand behind its plain texts
                                                            (spans_append_reference)
    collect text reference s = (pieces s).map …                     (collect_eq_map)
    single? s = some name  ↔  pieces s = [reference name]          (single?_eq_some)
    parse s numbers the references of pieces s by their first appearance  (parse_eq)
-/

namespace CestExport

/-! ## Algorithm -/

namespace Template

/-- What is made of a piece by a rule for texts and one for names. -/
def Piece.treat {α : Type} (text reference : String → α) : Piece → α
  | .text cs => text (String.ofList cs)
  | .reference name => reference name

end Template

/-- One piece of a recorded text as an operand. -/
def Php.operand : Template.Piece → String
  | .text cs => quote (String.ofList cs)
  | .reference name => read name

/-- One piece of a recorded key input. -/
def Keys.Token.ofPiece : Template.Piece → Token
  | .text cs => .literal (String.ofList cs)
  | .reference name => .ofReference name

/-- One piece of a recorded script, when the variables `argv` are its arguments. -/
def Script.argument (argv : List String) : Template.Piece → String
  | .text cs => String.ofList cs
  | .reference name => s!"arguments[{argv.idxOf name}]"

namespace Template

/-! ## Positions -/

theorem spans_of_reference {cs name rest : List Char} (h : reference? cs = some (name, rest))
    (position : Nat) : spans position cs =
      ⟨position, position + (name.length + 3), String.ofList name⟩ ::
        spans (position + (name.length + 3)) rest := by
  cases cs with
  | nil => simp [reference?] at h
  | cons c cs =>
    rw [spans]
    split
    next h' =>
      rw [h] at h'
      cases h'
      rfl
    next h' =>
      rw [h] at h'
      cases h'

theorem spans_of_none {c : Char} {cs : List Char} (h : reference? (c :: cs) = none)
    (position : Nat) : spans position (c :: cs) = spans (position + 1) cs := by
  rw [spans]
  split
  next h' =>
    rw [h] at h'
    cases h'
  next => rfl

theorem spans_eq_nil {u : List Char} (h : ∀ x y, u = x ++ y → ¬BeginsReference y)
    (position : Nat) : spans position u = [] := by
  induction u generalizing position with
  | nil => rw [spans]
  | cons c cs ih =>
    have hc : ¬BeginsReference (c :: cs) := h [] (c :: cs) rfl
    rw [spans_of_none (reference?_eq_none.2 hc), ih]
    intro x y hxy
    exact h (c :: x) y (by rw [hxy, List.cons_append])

/-- The leftmost reference begins behind the text in front of it. -/
theorem spans_append_reference {u name rest : List Char} (hname : IsName name)
    (h : ∀ x y, u = x ++ y → y ≠ [] → ¬BeginsReference (y ++ (writeReference name ++ rest)))
    (position : Nat) : spans position (u ++ (writeReference name ++ rest)) =
      ⟨position + u.length, position + u.length + (name.length + 3), String.ofList name⟩ ::
        spans (position + u.length + (name.length + 3)) rest := by
  induction u generalizing position with
  | nil => exact spans_of_reference (reference?_iff.2 ⟨rfl, hname⟩) position
  | cons c cs ih =>
    have hc : ¬BeginsReference (c :: (cs ++ (writeReference name ++ rest))) :=
      h [] (c :: cs) rfl (by simp)
    have hcs := ih (fun x y hxy => h (c :: x) y (by rw [hxy, List.cons_append])) (position + 1)
    have hposition : position + 1 + cs.length = position + (c :: cs).length := by
      rw [List.length_cons]
      omega
    rw [List.cons_append, spans_of_none (reference?_eq_none.2 hc), hcs, hposition]

theorem slice_between (front u rest : List Char) :
    slice (front ++ (u ++ rest)) front.length (front.length + u.length) = u := by
  rw [slice, List.drop_left, Nat.add_sub_cancel_left, List.take_left]

/-- Where a text is read on behind its first reference. -/
theorem length_behind (front u name : List Char) :
    (front ++ (u ++ writeReference name)).length =
      front.length + u.length + (name.length + 3) := by
  simp only [writeReference, List.length_append, List.length_cons, List.length_nil]
  omega

theorem append_behind (front u name rest : List Char) :
    front ++ (u ++ writeReference name) ++ rest =
      front ++ (u ++ (writeReference name ++ rest)) := by
  simp only [List.append_assoc]

/-! ## Values of the parts -/

theorem map_lead {α : Type} (f : Piece → α) (u : List Char) (ps : List Piece) :
    (lead u ps).map f = (if u = [] then [] else [f (.text u)]) ++ ps.map f := by
  unfold lead
  split <;> rfl

/-- A text between two positions is empty if they are the same. -/
theorem ite_lt_add_length {α : Type} (position : Nat) (u : List Char) (value : α) :
    (if position < position + u.length then [value] else []) =
      if u = [] then [] else [value] := by
  cases u with
  | nil => rw [List.length_nil, if_neg (by omega), if_pos rfl]
  | cons c u => rw [List.length_cons, if_pos (by omega), if_neg (List.cons_ne_nil c u)]

/-- The values that are collected behind a text are those of the pieces of what follows it. -/
theorem collectFrom_spans {α : Type} (text reference : String → α) {cs : List Char}
    {ps : List Piece} (h : Cut cs ps) (front : List Char) :
    collectFrom text reference (front ++ cs) front.length (spans front.length cs) =
      ps.map (Piece.treat text reference) := by
  induction h generalizing front with
  | @plain u hplain =>
    rw [spans_eq_nil hplain, collectFrom, List.drop_left, List.length_append, ite_lt_add_length,
      map_lead, List.map_nil, List.append_nil]
    rfl
  | @reference u name rest ps hname hfirst _ ih =>
    -- what was read so far stands in front of what follows the reference
    have hrest := ih (front ++ (u ++ writeReference name))
    rw [length_behind, append_behind] at hrest
    rw [spans_append_reference hname hfirst, collectFrom, slice_between, hrest, map_lead,
      ite_lt_add_length]
    rfl

theorem collect_eq_map {α : Type} (text reference : String → α) (s : String) :
    collect text reference s = (pieces s).map (Piece.treat text reference) :=
  collectFrom_spans text reference (cut_scan s.toList) []

/-! ## Single references -/

theorem scan_eq_nil {cs : List Char} : scan cs = [] ↔ cs = [] := by
  constructor
  · intro h
    have hwrite := write_scan cs
    rw [h] at hwrite
    exact hwrite.symm
  · rintro rfl
    simp [scan]

theorem push_ne_reference (c : Char) (ps : List Piece) (name : String) :
    push c ps ≠ [.reference name] := by
  unfold push
  split <;> simp

/-- A text is a single reference if the reference is its only piece. -/
theorem single?_eq_some {s name : String} :
    single? s = some name ↔ pieces s = [.reference name] := by
  unfold single? pieces
  cases hs : s.toList with
  | nil => simp [reference?, scan]
  | cons c cs =>
    cases hreference : reference? (c :: cs) with
    | none =>
      rw [scan_of_none hreference]
      exact iff_of_false (by simp) (push_ne_reference c (scan cs) name)
    | some p =>
      obtain ⟨n, rest⟩ := p
      rw [scan_of_reference hreference, List.cons.injEq, scan_eq_nil, Piece.reference.injEq]
      cases rest with
      | nil => simp
      | cons d rest => simp

end Template

/-! ## Texts and key input -/

theorem Php.text_of_nil {s : String} (h : Template.pieces s = []) : text s = quote "" := by
  rw [text, Template.collect_eq_map, h]
  rfl

theorem Php.text_eq {s : String} (h : Template.pieces s ≠ []) :
    text s = " . ".intercalate ((Template.pieces s).map operand) := by
  have htreat : Template.Piece.treat quote read = operand := by
    funext p
    cases p <;> rfl
  rw [text, Template.collect_eq_map, htreat]
  split
  next hnil => exact absurd (List.map_eq_nil_iff.1 hnil) h
  next => rfl

theorem Keys.split_eq_map (s : String) : split s = (Template.pieces s).map Token.ofPiece := by
  have htreat : Template.Piece.treat Token.literal Token.ofReference = Token.ofPiece := by
    funext p
    cases p <;> rfl
  rw [split, Template.collect_eq_map, htreat]

/-! ## Scripts -/

namespace Script

open Template

theorem flatMap_argument_lead (argv : List String) (u : List Char) (ps : List Piece) :
    (lead u ps).flatMap (fun p => (argument argv p).toList) =
      u ++ ps.flatMap fun p => (argument argv p).toList := by
  unfold lead
  split
  next hu => rw [hu, List.nil_append]
  next => rw [List.flatMap_cons, argument, String.toList_ofList]

theorem references_lead (u : List Char) (ps : List Piece) :
    references (lead u ps) = references ps := by
  unfold lead
  split <;> rfl

/-- Each reference has the number that its variable has among all arguments, although the arguments
behind it are not known yet when it is replaced. -/
theorem replaceFrom_spans {cs : List Char} {ps : List Piece} (h : Cut cs ps) (front : List Char)
    (argv : List String) :
    replaceFrom number (front ++ cs) argv front.length (spans front.length cs) =
      (ps.flatMap fun p => (argument (addAllNew argv (references ps)) p).toList,
        addAllNew argv (references ps)) := by
  induction h generalizing front argv with
  | @plain u hplain =>
    rw [spans_eq_nil hplain, replaceFrom, List.drop_left, flatMap_argument_lead, references_lead]
    simp [references, addAllNew]
  | @reference u name rest ps hname hfirst _ ih =>
    have hrest := ih (front ++ (u ++ writeReference name)) (addNew argv (String.ofList name))
    rw [length_behind, append_behind] at hrest
    -- the argument that is new here is added before those of the rest, and keeps its number
    have hlast : addAllNew argv (references (lead u (.reference (String.ofList name) :: ps))) =
        addAllNew (addNew argv (String.ofList name)) (references ps) := by
      rw [references_lead, references_cons_reference]
      rfl
    have hmem : String.ofList name ∈ addNew argv (String.ofList name) := mem_addNew.2 (.inr rfl)
    rw [spans_append_reference hname hfirst, replaceFrom, slice_between, flatMap_argument_lead,
      hlast]
    simp only [number, hrest, List.flatMap_cons]
    rw [argument, idxOf_addAllNew hmem]

/-- A script by the pieces of its text: the arguments are the variables referred to, each once, and
every reference has the number of its argument. -/
theorem parse_eq (s : String) :
    let argv := distinct (references (pieces s))
    parse s = ⟨String.join ((pieces s).map (argument argv)), argv⟩ := by
  intro argv
  have hreplace := replaceFrom_spans (cut_scan s.toList) [] []
  rw [List.nil_append, List.length_nil] at hreplace
  have hbody : String.ofList ((pieces s).flatMap fun p => (argument argv p).toList) =
      String.join ((pieces s).map (argument argv)) := by
    rw [← String.toList_inj, String.toList_ofList, String.toList_join, List.flatMap_map]
  rw [parse, replaceAll, hreplace, ← hbody]
  rfl

theorem argv_parse (s : String) : (parse s).argv = distinct (references (pieces s)) :=
  congrArg argv (parse_eq s)

theorem body_parse (s : String) :
    (parse s).body = String.join ((pieces s).map (argument (parse s).argv)) := by
  rw [argv_parse]
  exact congrArg body (parse_eq s)

end Script

end CestExport
