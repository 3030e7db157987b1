import CestExport.Proofs.Keys
import CestExport.Proofs.Php.Arguments
import CestExport.Proofs.Text.Upper
import Mathlib.Data.List.Forall2

/-!
# When key input is an argument list

Plain text and variables always become arguments of their own.  The name of a key
is pasted as it is, in upper case, so that the whole is an argument list only if
every such name is an identifier.

    value is answered by arguments  ↔  every key names an identifier           (answered_iff)
-/

namespace CestExport.Keys

open Php

/-! ## Algorithm -/

/-- An argument that stands for a part of key input: a literal of the same text, a read of the
same variable, or some constant for a key. -/
inductive Answers : Template.Piece → Argument → Prop
  | literal {cs body : List Char} : decode? body = some cs →
    Answers (.text cs) (.operand (.literal body))
  | read {name : String} {body : List Char} : Text.after? keyMark name = none →
    decode? body = some name.toList → Answers (.reference name) (.operand (.read body))
  | key (k : String) (name : List Char) : Answers (.reference (keyMark ++ k)) (.constant name)

/-- Arguments that stand for the parts of key input, or the empty text for the empty input. -/
def AnswersAll : List Template.Piece → List Argument → Prop
  | [], as => as = [.operand (.literal [])]
  | p :: ps, as => List.Forall₂ Answers (p :: ps) as

/-- Key input that becomes an argument list with one argument for each part, such that no other
list can be read in its place when the call goes on behind it. -/
def Answered (value : String) : Prop :=
  ∃ as, ArgumentList (arguments (split value)).toList as ∧
    AnswersAll (Template.pieces value) as ∧
    ∀ source as' rest rest', ArgumentList source as' →
      (arguments (split value)).toList ++ ')' :: rest = source ++ ')' :: rest' →
      as' = as ∧ rest' = rest

/-- The name of the constant for a key. -/
def constantName (k : String) : List Char :=
  let name := Text.upper (Text.trim k)
  ((aliases.lookup name).getD name).toList

/-- The argument for a part of key input. -/
def argument : Template.Piece → Argument
  | .text cs => .operand (.literal (escape cs))
  | .reference name =>
    match Text.after? keyMark name with
    | some k => .constant (constantName k)
    | none => .operand (.read (escape name.toList))

/-- A part of key input as it is written. -/
def writePiece (p : Template.Piece) : List Char :=
  (argument p).write

/-! ## Constants -/

theorem argument_key (k : String) :
    argument (.reference (keyMark ++ k)) = .constant (constantName k) := by
  simp only [argument, after?_eq_some.2 rfl]

theorem argument_variable {name : String} (h : Text.after? keyMark name = none) :
    argument (.reference name) = .operand (.read (escape name.toList)) := by
  simp only [argument, h]

theorem isIdentifier_aliases :
    ∀ p ∈ aliases, isIdentifier p.1.toList = true ∧ isIdentifier p.2.toList = true := by
  decide +kernel

/-- Only identifiers have aliases, and only identifiers are aliases. -/
theorem isIdentifier_of_lookup {key name : String} (h : aliases.lookup key = some name) :
    isIdentifier key.toList = true ∧ isIdentifier name.toList = true := by
  obtain ⟨front, back, haliases, _⟩ := List.lookup_eq_some_iff.1 h
  have hmem : (key, name) ∈ aliases := by
    rw [haliases]
    simp
  exact isIdentifier_aliases _ hmem

theorem isIdentifier_constantName (k : String) :
    isIdentifier (constantName k) = isIdentifier (Text.upper (Text.trim k)).toList := by
  simp only [constantName]
  cases h : aliases.lookup (Text.upper (Text.trim k)) with
  | none => rfl
  | some name =>
    obtain ⟨hkey, hname⟩ := isIdentifier_of_lookup h
    rw [Option.getD_some, hkey, hname]

/-- A name that is no identifier is in upper case. -/
theorem isLower_of_mem_constantName {k : String} (h : isIdentifier (constantName k) = false) :
    ∀ c ∈ constantName k, c.isLower = false := by
  intro c hc
  have hkey := isIdentifier_constantName k
  rw [h] at hkey
  simp only [constantName] at hc
  cases hlookup : aliases.lookup (Text.upper (Text.trim k)) with
  | none =>
    rw [hlookup, Option.getD_none] at hc
    exact Text.isLower_of_mem_upper hc
  | some name =>
    rw [(isIdentifier_of_lookup hlookup).1] at hkey
    simp at hkey

/-! ## Arguments -/

theorem toList_argument (p : Template.Piece) :
    (Token.ofPiece p).argument.toList = writePiece p := by
  cases p with
  | text cs => exact toList_operand (.text cs)
  | reference name =>
    cases h : Text.after? keyMark name with
    | none =>
      rw [writePiece, argument_variable h, ofPiece_variable h]
      exact toList_operand (.reference name)
    | some k =>
      obtain rfl := after?_eq_some.1 h
      rw [writePiece, argument_key, ofPiece_key, write_constant]
      exact String.toList_append

theorem toList_arguments {value : String} {p : Template.Piece} {ps : List Template.Piece}
    (h : Template.pieces value = p :: ps) :
    (arguments (split value)).toList = separated comma writePiece (p :: ps) := by
  have hsplit : split value = Token.ofPiece p :: ps.map Token.ofPiece := by
    rw [split_eq_map, h, List.map_cons]
  have harguments : arguments (split value) =
      ", ".intercalate ((split value).map Token.argument) := by
    rw [hsplit]
    rfl
  rw [harguments, split_eq_map, h, String.toList_intercalate, List.map_map, List.map_map]
  simp only [separated]
  congr 2
  funext q
  exact toList_argument q

theorem answers_argument (p : Template.Piece) : Answers p (argument p) := by
  cases p with
  | text cs => exact .literal (decode?_escape cs)
  | reference name =>
    cases h : Text.after? keyMark name with
    | none =>
      rw [argument_variable h]
      exact .read h (decode?_escape name.toList)
    | some k =>
      obtain rfl := after?_eq_some.1 h
      rw [argument_key]
      exact .key k _

theorem isValid_argument {p : Template.Piece}
    (h : ∀ k, p = .reference (keyMark ++ k) → isIdentifier (constantName k) = true) :
    (argument p).IsValid := by
  cases p with
  | text cs => exact ⟨cs, decode?_escape cs⟩
  | reference name =>
    cases hk : Text.after? keyMark name with
    | none =>
      rw [argument_variable hk]
      exact ⟨name.toList, decode?_escape name.toList⟩
    | some k =>
      obtain rfl := after?_eq_some.1 hk
      rw [argument_key]
      exact h k rfl

/-! ## Names that are no identifiers -/

/-- A lower-case letter ends what upper case can match. -/
theorem append_cons_ne {u t front z : List Char} {c y : Char} (hu : ∀ d ∈ u, d.isLower = false)
    (hy : y.isLower = true) (hc : c.isLower = false) (hfront : c ∉ front) :
    u ++ c :: t ≠ front ++ y :: z := by
  induction u generalizing front with
  | nil =>
    intro h
    cases front with
    | nil =>
      obtain ⟨rfl, _⟩ := List.cons.inj h
      rw [hy] at hc
      simp at hc
    | cons d ds =>
      obtain ⟨rfl, _⟩ := List.cons.inj h
      exact hfront List.mem_cons_self
  | cons d ds ih =>
    intro h
    obtain ⟨hd, hds⟩ := List.forall_mem_cons.1 hu
    cases front with
    | nil =>
      obtain ⟨rfl, _⟩ := List.cons.inj h
      rw [hy] at hd
      simp at hd
    | cons e es =>
      obtain ⟨_, htail⟩ := List.cons.inj h
      exact ih hds (fun hmem => hfront (List.mem_cons_of_mem e hmem)) htail

theorem exists_constant_of_answers {k : String} {w : Argument}
    (h : Answers (.reference (keyMark ++ k)) w) : ∃ name, w = .constant name := by
  generalize hp : Template.Piece.reference (keyMark ++ k) = p at h
  cases h with
  | literal _ => simp at hp
  | read hnone _ =>
    obtain rfl := Template.Piece.reference.inj hp
    simp [after?_eq_some.2 rfl] at hnone
  | key _ name => exact ⟨name, rfl⟩

/-- A constant or a read has a lower-case letter in second place. -/
theorem write_of_answers_reference {name : String} {w : Argument}
    (h : Answers (.reference name) w) : ∃ x y z, w.write = x :: y :: z ∧
      x ≠ ',' ∧ x ≠ '\'' ∧ y.isLower = true := by
  cases h with
  | read _ _ =>
    exact ⟨'$', 't', _, rfl, by decide, by decide, by decide⟩
  | key k constant =>
    exact ⟨'W', 'e', _, rfl, by decide, by decide, by decide⟩

/-- What follows an argument: nothing, or the next one, which is no literal. -/
def Resumes (rest : List Char) : Prop :=
  rest = [] ∨ ∃ x y z, rest = comma ++ (x :: y :: z) ∧ x ≠ '\'' ∧ y.isLower = true

theorem Resumes.ne_append {rest u t : List Char} (h : Resumes rest)
    (hu : ∀ d ∈ u, d.isLower = false) : rest ≠ u ++ '\'' :: t := by
  rcases h with rfl | ⟨x, y, z, rfl, hx, hy⟩
  · simp
  · have hfront : '\'' ∉ [',', ' ', x] := by simp [Ne.symm hx]
    exact (append_cons_ne hu hy (by decide) hfront).symm

theorem isLower_escape {body cs : List Char} (h : decode? body = some cs)
    (hbody : ∀ d ∈ body, d.isLower = false) : ∀ d ∈ escape cs, d.isLower = false := by
  intro d hd
  rcases mem_escape hd with hd | rfl
  · have hmem := mem_of_scanBody? (decode?_eq_some.1 h) d hd
    rcases List.mem_append.1 hmem with hmem | hmem
    · exact hbody d hmem
    · obtain rfl := List.mem_singleton.1 hmem
      decide
  · decide

/-- No literal can begin in the name of a key and end as the part behind the key asks for. -/
theorem literal_ne {u body cs rest : List Char} (hu : ∀ d ∈ u, d.isLower = false)
    (hbody : decode? body = some cs) (hrest : Resumes rest) (more : List Char) :
    u ++ (comma ++ ('\'' :: (escape cs ++ '\'' :: more))) ≠ body ++ '\'' :: rest := by
  intro h
  have hcomma : ∀ d ∈ u ++ comma, d.isLower = false :=
    List.forall_mem_append.2 ⟨hu, by simp [comma]⟩
  have hmeet : body = u ++ comma → rest ≠ escape cs ++ '\'' :: more := by
    intro hb
    exact hrest.ne_append (isLower_escape hbody (hb ▸ hcomma))
  rw [← List.append_assoc] at h
  -- the literal ends behind the quote that follows the name, at it, or in front of it
  rcases List.append_eq_append_iff.1 h with ⟨m, hm, hq⟩ | ⟨m, hm, hq⟩
  · cases m with
    | nil =>
      obtain ⟨_, hq⟩ := List.cons.inj hq
      exact hmeet (by simpa using hm) hq.symm
    | cons q m =>
      obtain ⟨rfl, _⟩ := List.cons.inj hq
      obtain ⟨s, r, hs, hr⟩ := scanBody?_blank_quote (u ++ [',']) (m ++ ['\''])
      have hscan : scanBody? (u ++ [','] ++ ' ' :: '\'' :: (m ++ ['\''])) = some (cs, []) := by
        rw [← decode?_eq_some.1 hbody, hm]
        simp [comma]
      rw [hscan] at hs
      cases hs
      simp at hr
  · cases m with
    | nil =>
      obtain ⟨_, hq⟩ := List.cons.inj hq
      exact hmeet (by simpa using hm.symm) hq
    | cons q m =>
      obtain ⟨_, hq⟩ := List.cons.inj hq
      refine hrest.ne_append (fun d hd => hcomma d ?_) hq
      rw [hm]
      exact List.mem_append_right body (List.mem_cons_of_mem q hd)

/-! ## Parts and their arguments -/

theorem resumes_of_answers {ps : List Template.Piece} {ws : List Argument}
    (h : List.Forall₂ Answers ps ws) (htext : ∀ cs qs, ps ≠ .text cs :: qs) :
    Resumes (continued comma Argument.write ws) := by
  cases h with
  | nil => exact .inl rfl
  | @cons p w ps ws hw _ =>
    cases p with
    | text cs => exact absurd rfl (htext cs ps)
    | reference name =>
      obtain ⟨x, y, z, hwrite, _, hx, hy⟩ := write_of_answers_reference hw
      refine .inr ⟨x, y, z ++ continued comma Argument.write ws, ?_, hx, hy⟩
      rw [continued_cons, hwrite]
      rfl

theorem endsName_continued {α : Type} (write : α → List Char) (xs : List α) :
    EndsName (continued comma write xs) := by
  have hnil : EndsName [] := by
    intro c cs hc
    simp at hc
  have h : EndsName (continued comma write xs ++ []) := stop_continued endsName_comma hnil xs
  rwa [List.append_nil] at h

/-- What is left of a name in upper case cannot begin the argument for the part behind it. -/
theorem upper_ne {u : List Char} (hu : ∀ d ∈ u, d.isLower = false) {p : Template.Piece}
    {ps : List Template.Piece} {w : Argument} {ws : List Argument}
    (halt : Template.Alternates (p :: ps)) (hw : Answers p w) (hws : List.Forall₂ Answers ps ws) :
    u ++ (comma ++ (writePiece p ++ continued comma writePiece ps)) ≠
      w.write ++ continued comma Argument.write ws := by
  intro h
  cases p with
  | reference name =>
    obtain ⟨x, y, z, hwrite, hx, _, hy⟩ := write_of_answers_reference hw
    rw [hwrite] at h
    have hfront : ',' ∉ [x] := by simp [Ne.symm hx]
    exact append_cons_ne hu hy (by decide) hfront h
  | text cs =>
    cases hw with
    | @literal _ body hbody =>
      have hrest := resumes_of_answers hws halt.2.1
      cases u with
      | nil =>
        obtain ⟨hquote, _⟩ := List.cons.inj h
        exact absurd hquote (by decide)
      | cons q u =>
        obtain ⟨_, hmeet⟩ := List.cons.inj h
        refine literal_ne (List.forall_mem_cons.1 hu).2 hbody hrest
          (continued comma writePiece ps) ?_
        simpa [writePiece, argument, write_operand, Operand.write] using hmeet

/-- A name that is no identifier does not end as a constant does. -/
theorem constantName_ne {k : String} (hk : isIdentifier (constantName k) = false)
    {name : List Char} (hname : isIdentifier name = true) {ps : List Template.Piece}
    {ws : List Argument} (halt : Template.Alternates ps) (hws : List.Forall₂ Answers ps ws) :
    constantName k ++ continued comma writePiece ps ≠
      name ++ continued comma Argument.write ws := by
  intro h
  have hdiffer : constantName k ≠ name := by
    intro heq
    rw [heq, hname] at hk
    simp at hk
  rcases List.append_eq_append_iff.1 h with ⟨m, hm, hrest⟩ | ⟨m, hm, hrest⟩
  · cases m with
    | nil => exact hdiffer (by simpa using hm.symm)
    | cons c m =>
      have hc := isNameChar_of_isIdentifier hname c (by simp [hm])
      rw [endsName_continued writePiece ps c _ hrest] at hc
      simp at hc
  · cases m with
    | nil => exact hdiffer (by simpa using hm)
    | cons c m =>
      cases hws with
      | nil => simp [continued] at hrest
      | @cons p w ps ws hw hws =>
        rw [continued_cons, continued_cons] at hrest
        obtain ⟨_, hrest⟩ := List.cons.inj hrest
        cases m with
        | nil =>
          obtain ⟨hblank, _⟩ := List.cons.inj hrest
          exact absurd hblank (by decide)
        | cons d m =>
          obtain ⟨_, hrest⟩ := List.cons.inj hrest
          have hupper : ∀ e ∈ m, e.isLower = false := by
            intro e he
            refine isLower_of_mem_constantName hk e ?_
            rw [hm]
            simp [he]
          exact upper_ne hupper halt hw hws hrest.symm

/-- An argument that answers a part tells that the part is written as an argument. -/
theorem isValid_of_answers {p : Template.Piece} {ps : List Template.Piece} {w : Argument}
    {ws : List Argument} (halt : Template.Alternates (p :: ps)) (hw : Answers p w)
    (hws : List.Forall₂ Answers ps ws) (hvalid : w.IsValid)
    (h : writePiece p ++ continued comma writePiece ps =
      w.write ++ continued comma Argument.write ws) : (argument p).IsValid := by
  refine isValid_argument fun k hp => ?_
  subst hp
  obtain ⟨name, rfl⟩ := exists_constant_of_answers hw
  cases hk : isIdentifier (constantName k) with
  | true => rfl
  | false =>
    rw [writePiece, argument_key, write_constant, write_constant, List.append_assoc,
      List.append_assoc, List.append_cancel_left_eq] at h
    exact absurd h (constantName_ne hk hvalid halt.tail hws)

theorem isValid_of_continued {ps : List Template.Piece} {ws : List Argument}
    (halt : Template.Alternates ps) (hws : List.Forall₂ Answers ps ws)
    (hvalid : ∀ w ∈ ws, w.IsValid)
    (h : continued comma writePiece ps = continued comma Argument.write ws) :
    ∀ p ∈ ps, (argument p).IsValid := by
  induction hws with
  | nil => simp
  | @cons p w ps ws hw hws ih =>
    obtain ⟨hv, hvs⟩ := List.forall_mem_cons.1 hvalid
    rw [continued_cons, continued_cons, List.append_cancel_left_eq] at h
    have hp := isValid_of_answers halt hw hws hv h
    have hrest := (readable_argument hp hv (endsName_continued _ ps) (endsName_continued _ ws) h).2
    exact List.forall_mem_cons.2 ⟨hp, ih halt.tail hvs hrest⟩

/-! ## Key input -/

theorem argumentList_of_valid {p : Template.Piece} {ps : List Template.Piece} {value : String}
    (hpieces : Template.pieces value = p :: ps) (h : ∀ q ∈ p :: ps, (argument q).IsValid) :
    ArgumentList (arguments (split value)).toList ((p :: ps).map argument) where
  ne_nil := by simp
  valid := by
    intro w hw
    obtain ⟨q, hq, rfl⟩ := List.mem_map.1 hw
    exact h q hq
  source_eq := by
    rw [toList_arguments hpieces, separated, separated, List.map_map]
    rfl

theorem argumentList_of_empty {value : String} (hpieces : Template.pieces value = []) :
    ArgumentList (arguments (split value)).toList [.operand (.literal [])] where
  ne_nil := by simp
  valid := by
    intro w hw
    obtain rfl := List.mem_singleton.1 hw
    exact ⟨[], rfl⟩
  source_eq := by
    rw [split_eq_map, hpieces]
    rfl

theorem answersAll_argument {p : Template.Piece} {ps : List Template.Piece} :
    AnswersAll (p :: ps) ((p :: ps).map argument) := by
  show List.Forall₂ Answers (p :: ps) ((p :: ps).map argument)
  rw [List.forall₂_map_right_iff, List.forall₂_same]
  intro q _
  exact answers_argument q

/-- Arguments that answer the parts of key input tell that each part is written as one. -/
theorem isValid_of_argumentList {value : String} {p : Template.Piece} {ps : List Template.Piece}
    {as : List Argument} (hpieces : Template.pieces value = p :: ps)
    (hlist : ArgumentList (arguments (split value)).toList as) (h : AnswersAll (p :: ps) as) :
    ∀ q ∈ p :: ps, (argument q).IsValid := by
  have halt : Template.Alternates (p :: ps) := by
    rw [← hpieces]
    exact Template.alternates_scan value.toList
  obtain ⟨w, ws, rfl⟩ := List.exists_cons_of_ne_nil hlist.ne_nil
  have hsource := hlist.source_eq
  rw [toList_arguments hpieces, separated_cons, separated_cons] at hsource
  have hcontinued : continued comma writePiece (p :: ps) =
      continued comma Argument.write (w :: ws) := by
    rw [continued_cons, continued_cons, hsource]
  exact isValid_of_continued halt h hlist.valid hcontinued

/-- An argument list that answers the parts of key input is the only one to be read. -/
theorem answered_of_argumentList {value : String} {as : List Argument}
    (hlist : ArgumentList (arguments (split value)).toList as)
    (h : AnswersAll (Template.pieces value) as) : Answered value := by
  refine ⟨as, hlist, h, ?_⟩
  intro source as' rest rest' hlist' heq
  obtain ⟨rfl, rfl⟩ := hlist.unique hlist' heq
  exact ⟨rfl, rfl⟩

/-- Key input becomes an argument list that answers its parts if and only if every key in it names
an identifier. -/
theorem answered_iff (value : String) :
    Answered value ↔ ∀ k, keyMark ++ k ∈ Template.references (Template.pieces value) →
      isIdentifier (Text.upper (Text.trim k)).toList = true := by
  constructor
  · rintro ⟨as, hlist, hanswers, _⟩ k hk
    rw [mem_references] at hk
    cases hpieces : Template.pieces value with
    | nil => simp [hpieces] at hk
    | cons p ps =>
      rw [hpieces] at hk hanswers
      have hvalid := isValid_of_argumentList hpieces hlist hanswers _ hk
      rw [argument_key] at hvalid
      rw [← isIdentifier_constantName]
      exact hvalid
  · intro h
    cases hpieces : Template.pieces value with
    | nil =>
      have hlist := argumentList_of_empty hpieces
      exact answered_of_argumentList hlist (by rw [hpieces]; rfl)
    | cons p ps =>
      have hvalid : ∀ q ∈ p :: ps, (argument q).IsValid := by
        intro q hq
        refine isValid_argument fun k hk => ?_
        rw [isIdentifier_constantName]
        refine h k ?_
        rw [mem_references, hpieces, ← hk]
        exact hq
      have hlist := argumentList_of_valid hpieces hvalid
      exact answered_of_argumentList hlist (by rw [hpieces]; exact answersAll_argument)

/-- A bracket in the name of a key closes the call. -/
theorem not_answered_bracketKey :
    arguments (split "$\x7bKEY_A); die(\x7d") = "WebDriverKeys::A); DIE(" ∧
      ¬Answered "$\x7bKEY_A); die(\x7d" := by
  have harguments : arguments (split "$\x7bKEY_A); die(\x7d") = "WebDriverKeys::A); DIE(" := by
    decide +kernel
  refine ⟨harguments, ?_⟩
  rintro ⟨as, _, _, hunique⟩
  have hvalid : ∀ a ∈ [Argument.constant ['A']], a.IsValid := by
    intro a ha
    obtain rfl := List.mem_singleton.1 ha
    rfl
  have hlist : ArgumentList "WebDriverKeys::A".toList [.constant ['A']] := ⟨by simp, hvalid, rfl⟩
  obtain ⟨_, hrest⟩ := hunique _ _ [] "; DIE()".toList hlist (by rw [harguments]; rfl)
  exact absurd hrest (by decide)

end CestExport.Keys
