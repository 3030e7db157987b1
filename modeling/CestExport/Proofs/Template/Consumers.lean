import CestExport.Proofs.Keys
import Mathlib.Data.List.Forall2

/-!
# All consumers cut a text at the same references

Key input, texts, scripts and counts refer to variables in the same way.  Each of
them treats the pieces of a text one by one and in order, so that they agree on
what is a reference and on what is plain; and the tokens of key input tell the
text they were made from.

    Keys.recorded (Keys.split s) = s                                  (recorded_split)
    tokens, operands and arguments stand for the pieces               (consumers_agree)
-/

namespace CestExport

open Template (IsName writeReference)

/-! ## Algorithm -/

/-- The name of the variable that an expression reads, if it is a read. -/
def Php.readName? (expression : String) : Option String :=
  (Text.after? readMark expression).bind fun rest =>
    match scan? rest.toList with
    | some (name, [']']) => some (String.ofList name)
    | _ => none

namespace Keys

/-- A token that stands for a piece of key input: a plain text for itself, and for a reference a key
if its name begins with the mark of keys, or else the read of the variable. -/
inductive Stands : Template.Piece → Token → Prop
  | literal (cs : List Char) : Stands (.text cs) (.literal (String.ofList cs))
  | key (k : String) : Stands (.reference (keyMark ++ k)) (.key k)
  | read {name : String} : (∀ k, name ≠ keyMark ++ k) →
    Stands (.reference name) (.variable (Php.read name))

/-- What a token was made from; nothing for an expression that reads no variable. -/
def Token.recorded : Token → List Char
  | .literal text => text.toList
  | .key name => writeReference (keyMark ++ name).toList
  | .variable expression =>
    match Php.readName? expression with
    | some name => writeReference name.toList
    | none => []

/-- The text that tokens were made from. -/
def recorded (tokens : List Token) : String :=
  String.ofList (tokens.flatMap Token.recorded)

end Keys

/-! ## Reads -/

theorem Php.readName?_read (name : String) : readName? (read name) = some name := by
  have hread : read name = readMark ++ (quote name ++ "]") := String.append_assoc
  have hrest : scan? (quote name ++ "]").toList = some (name.toList, [']']) := by
    rw [String.toList_append, quote, String.toList_ofList]
    exact scan?_quoteChars name.toList [']']
  rw [readName?, Keys.after?_eq_some.2 hread, Option.bind_some, hrest]
  simp only [String.ofList_toList]

/-! ## Key input -/

namespace Keys

theorem stands_ofPiece (p : Template.Piece) : Stands p (Token.ofPiece p) := by
  cases p with
  | text cs => exact .literal cs
  | reference name =>
    cases h : Text.after? keyMark name with
    | none =>
      rw [ofPiece_variable h]
      refine .read fun k hk => ?_
      rw [after?_eq_some.2 hk] at h
      cases h
    | some k =>
      obtain rfl := after?_eq_some.1 h
      rw [ofPiece_key]
      exact .key k

theorem recorded_of_stands {p : Template.Piece} {token : Token} (h : Stands p token) :
    token.recorded = p.write := by
  cases h with
  | literal cs => exact String.toList_ofList
  | key k => rfl
  | @read name _ =>
    simp only [Token.recorded, Php.readName?_read]
    rfl

theorem stands_split (s : String) : List.Forall₂ Stands (Template.pieces s) (split s) := by
  rw [split_eq_map, List.forall₂_map_right_iff, List.forall₂_same]
  exact fun p _ => stands_ofPiece p

/-- Key input can be put together again from its tokens. -/
theorem recorded_split (s : String) : recorded (split s) = s := by
  have htokens : (split s).flatMap Token.recorded =
      (Template.pieces s).flatMap Template.Piece.write := by
    rw [split_eq_map, List.flatMap_map]
    congr 1
    funext p
    exact recorded_of_stands (stands_ofPiece p)
  rw [recorded, htokens, Template.pieces, Template.write_scan, String.ofList_toList]

end Keys

/-! ## Texts, scripts and counts -/

theorem Template.pieces_ne_nil {s : String} (h : s ≠ "") : pieces s ≠ [] := by
  intro hnil
  exact h (String.toList_inj.1 (scan_eq_nil.1 hnil))

/-- Every reference of a script has its argument at the place that its number says. -/
theorem Script.getElem?_argv {s name : String}
    (h : .reference name ∈ Template.pieces s) :
    (parse s).argv[(parse s).argv.idxOf name]? = some name := by
  have hmem : name ∈ (parse s).argv := by
    rw [argv_parse]
    exact mem_addAllNew.2 (.inr (Keys.mem_references.2 h))
  rw [List.getElem?_eq_getElem (List.idxOf_lt_length_of_mem hmem), List.getElem_idxOf]

/-! ## All consumers -/

/-- For every text that is not empty there are the pieces into which it is cut at its references,
the leftmost of those left each time: written one after the other they are the text, none of them
is an empty text, and none a text behind another one.  Each consumer treats these very pieces in
order: key input makes a token of each, a text joins the literals and reads for them, a script
puts `arguments[i]` in the place of each reference, where the argument `i` is the variable
referred to, and a count is a single variable if and only if one reference is the only piece.  And
the tokens of key input determine the text. -/
theorem consumers_agree {t : String} (h : t ≠ "") : ∃ ps : List Template.Piece,
    (∀ qs, Template.Cut t.toList qs ↔ qs = ps) ∧
    ps ≠ [] ∧ ps.flatMap Template.Piece.write = t.toList ∧ Template.Alternates ps ∧
    List.Forall₂ Keys.Stands ps (Keys.split t) ∧
    Php.text t = " . ".intercalate (ps.map fun
      | .text cs => Php.quote (String.ofList cs)
      | .reference name => Php.read name) ∧
    (Script.parse t).body = String.join (ps.map fun
      | .text cs => String.ofList cs
      | .reference name => s!"arguments[{(Script.parse t).argv.idxOf name}]") ∧
    (∀ name, .reference name ∈ ps →
      (Script.parse t).argv[(Script.parse t).argv.idxOf name]? = some name) ∧
    (∀ name, Template.single? t = some name ↔ ps = [.reference name]) ∧
    Keys.recorded (Keys.split t) = t := by
  refine ⟨Template.pieces t, fun qs => Template.cut_iff, Template.pieces_ne_nil h,
    Template.write_scan t.toList, Template.alternates_scan t.toList, Keys.stands_split t,
    Php.text_eq (Template.pieces_ne_nil h), Script.body_parse t, fun name => Script.getElem?_argv,
    fun name => Template.single?_eq_some, Keys.recorded_split t⟩

/-- A name with the beginning of a reference, empty braces, a line break, a key and a lone mark. -/
theorem consumers_agree_nestedText :
    let t := "$\x7ba$\x7bb\x7d$\x7b\x7d\n$\x7bKEY_X\x7d'$"
    let ps : List Template.Piece := [.reference "a$\x7bb", .text "$\x7b\x7d\n".toList,
      .reference "KEY_X", .text "'$".toList]
    t ≠ "" ∧ Template.Cut t.toList ps ∧ Template.Alternates ps ∧
      Keys.split t = [.variable "$this->vars['a$\x7bb']", .literal "$\x7b\x7d\n", .key "X",
        .literal "'$"] ∧
      List.Forall₂ Keys.Stands ps (Keys.split t) ∧
      Php.text t = "$this->vars['a$\x7bb'] . '$\x7b\x7d\n' . $this->vars['KEY_X'] . '\\'$'" ∧
      (Script.parse t).body = "arguments[0]$\x7b\x7d\narguments[1]'$" ∧
      (Script.parse t).argv[1]? = some "KEY_X" ∧ Template.single? t = none ∧
      Keys.recorded (Keys.split t) = t := by
  intro t ps
  have hne : t ≠ "" := by decide
  have hsplit : Keys.split t = [.variable "$this->vars['a$\x7bb']", .literal "$\x7b\x7d\n",
      .key "X", .literal "'$"] := by decide +kernel
  obtain ⟨qs, hcut, _, hwrite, halternates, hstands, htext, hbody, hargv, hsingle, hrecorded⟩ :=
    consumers_agree hne
  have hpieces : Template.Cut t.toList ps := Template.cut_iff.2 (by decide +kernel)
  obtain rfl : ps = qs := (hcut ps).1 hpieces
  have hargument := hargv "KEY_X" (by decide)
  refine ⟨hne, hpieces, halternates, hsplit, hstands, ?_, ?_, ?_, ?_, hrecorded⟩
  · rw [htext]
    decide +kernel
  · rw [hbody]
    decide +kernel
  · rwa [show (Script.parse t).argv.idxOf "KEY_X" = 1 by decide +kernel] at hargument
  · cases h : Template.single? t with
    | none => rfl
    | some name => exact absurd ((hsingle name).1 h) (by simp [ps])

end CestExport
