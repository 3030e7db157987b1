import CestExport.Locator
import CestExport.Proofs.Template

/-!
# Strings in XPath

A literal stands between two quotes of one kind and knows no escapes, so that a text
with quotes of both kinds has to be joined from literals that lack one kind each.
`string?` reads an expression for a string from the beginning of a longer text.

    splitting a text and joining the pieces gives the text                (join_splitChars)
    string? (literal s ++ rest) = some (s, rest)                          (string?_literal)
-/

namespace CestExport

/-! ## Algorithm -/

namespace XPath

/-- White space, which may stand between the parts of an expression. -/
def isSpace (c : Char) : Bool :=
  c == ' ' || c == '\t' || c == '\n' || c == '\r'

/-- The text of the literal that stands here, up to the next quote of its kind, and what follows. -/
def literal? : List Char → Option (List Char × List Char)
  | '\'' :: cs => Text.cutFirstChars '\'' cs
  | '"' :: cs => Text.cutFirstChars '"' cs
  | _ => none

theorem length_of_literal? {cs s rest : List Char} (h : literal? cs = some (s, rest)) :
    rest.length < cs.length := by
  unfold literal? at h
  split at h
  next =>
    have hds := congrArg List.length (Text.cutFirstChars_eq h).1
    simp only [List.length_append, List.length_cons] at hds ⊢
    omega
  next =>
    have hds := congrArg List.length (Text.cutFirstChars_eq h).1
    simp only [List.length_append, List.length_cons] at hds ⊢
    omega
  next => cases h

/-- The texts of the literals in a call, read behind its opening bracket, and what follows the
closing one. -/
def arguments? (cs : List Char) : Option (List (List Char) × List Char) :=
  match _h : literal? (cs.dropWhile isSpace) with
  | none => none
  | some (s, rest) =>
    match _h' : rest.dropWhile isSpace with
    | ',' :: more => (arguments? more).map fun p => (s :: p.1, p.2)
    | ')' :: more => some ([s], more)
    | _ => none
termination_by cs.length
decreasing_by
  have h1 := length_of_literal? _h
  have h2 := (List.dropWhile_sublist isSpace (l := cs)).length_le
  have h3 := (List.dropWhile_sublist isSpace (l := rest)).length_le
  rw [_h', List.length_cons] at h3
  omega

/-- The string that an expression denotes, and what follows the expression: a literal, or a call of
`concat` with two literals or more. -/
def string? (cs : List Char) : Option (List Char × List Char) :=
  match Text.dropBeginning? "concat".toList cs with
  | none => literal? cs
  | some rest =>
    match rest.dropWhile isSpace with
    | '(' :: more => (arguments? more).bind fun p =>
      if 2 ≤ p.1.length then some (p.1.flatten, p.2) else none
    | _ => none

/-- A text between two quotes of one kind. -/
def between (q : Char) (cs : List Char) : List Char :=
  q :: (cs ++ [q])

end XPath

/-! ## Pieces between separators -/

namespace Text

variable {c : Char}

theorem splitChars_ne_nil (p : Char → Bool) (cs : List Char) : splitChars p cs ≠ [] := by
  cases cs with
  | nil => simp [splitChars]
  | cons d ds =>
    rw [splitChars]
    split
    next => simp
    next => split <;> simp

theorem not_mem_of_mem_splitChars {cs piece : List Char} (h : piece ∈ splitChars (· == c) cs) :
    c ∉ piece := by
  induction cs generalizing piece with
  | nil =>
    obtain rfl := List.mem_singleton.1 h
    simp
  | cons d ds ih =>
    rw [splitChars] at h
    split at h
    next hnil => exact absurd hnil (splitChars_ne_nil _ ds)
    next w ws hws =>
      rw [hws] at ih
      split at h
      next hd =>
        rcases List.mem_cons.1 h with rfl | h
        · simp
        · exact ih h
      next hd =>
        rcases List.mem_cons.1 h with rfl | h
        · have hw := ih List.mem_cons_self
          have hne : c ≠ d := fun hcd => hd (by simp [hcd])
          simp [hne, hw]
        · exact ih (List.mem_cons_of_mem w h)

/-- A text is its pieces, joined by the character at which it was split. -/
theorem join_splitChars (c : Char) (cs : List Char) :
    [c].intercalate (splitChars (· == c) cs) = cs := by
  induction cs with
  | nil => rfl
  | cons d ds ih =>
    rw [splitChars]
    split
    next hnil => exact absurd hnil (splitChars_ne_nil _ ds)
    next w ws hws =>
      rw [hws] at ih
      split
      next hd =>
        rw [List.intercalate_cons_cons, ih]
        simpa using (eq_of_beq hd).symm
      next =>
        rw [← ih]
        cases ws with
        | nil => rfl
        | cons v vs => simp [List.intercalate_cons_cons]

/-- A text is split in two at least where it holds the separator. -/
theorem two_le_length_splitChars {cs : List Char} (h : c ∈ cs) :
    2 ≤ (splitChars (· == c) cs).length := by
  have hjoin := join_splitChars c cs
  match hpieces : splitChars (· == c) cs with
  | [] => exact absurd hpieces (splitChars_ne_nil _ cs)
  | [piece] =>
    rw [hpieces] at hjoin
    have hpiece : piece = cs := by simpa [List.intercalate] using hjoin
    have hmem : piece ∈ splitChars (· == c) cs := by simp [hpieces]
    exact absurd (hpiece ▸ h) (not_mem_of_mem_splitChars hmem)
  | _ :: _ :: pieces => simp

end Text

namespace XPath

/-! ## Literals -/

theorem literal?_between {q : Char} (hq : q = '\'' ∨ q = '"') {s : List Char} (hs : q ∉ s)
    (rest : List Char) : literal? (between q s ++ rest) = some (s, rest) := by
  have hcut := Template.cutFirstChars_append hs rest
  have hsource : between q s ++ rest = q :: (s ++ q :: rest) := by simp [between]
  rw [hsource]
  rcases hq with rfl | rfl
  · exact hcut
  · exact hcut

theorem dropWhile_between {q : Char} (hq : q = '\'' ∨ q = '"') (s rest : List Char) :
    (between q s ++ rest).dropWhile isSpace = between q s ++ rest := by
  rcases hq with rfl | rfl
  · rfl
  · rfl

/-! ## Arguments -/

theorem arguments?_of_literal? {cs s rest : List Char}
    (h : literal? (cs.dropWhile isSpace) = some (s, rest)) :
    arguments? cs = match rest.dropWhile isSpace with
      | ',' :: more => (arguments? more).map fun p => (s :: p.1, p.2)
      | ')' :: more => some ([s], more)
      | _ => none := by
  rw [arguments?]
  split
  next hnone =>
    rw [h] at hnone
    cases hnone
  next hsome =>
    rw [h] at hsome
    cases hsome
    split <;> simp_all only

theorem arguments?_space (cs : List Char) : arguments? (' ' :: cs) = arguments? cs := by
  have hspace : (' ' :: cs).dropWhile isSpace = cs.dropWhile isSpace := rfl
  rw [arguments?, arguments?, hspace]

section

variable {q : Char} (hq : q = '\'' ∨ q = '"') {s : List Char} (hs : q ∉ s)
include hq hs

theorem arguments?_comma (more : List Char) : arguments? (between q s ++ ',' :: more) =
    (arguments? more).map fun p => (s :: p.1, p.2) := by
  have hliteral := literal?_between hq hs (',' :: more)
  rw [← dropWhile_between hq s] at hliteral
  rw [arguments?_of_literal? hliteral]
  rfl

theorem arguments?_close (more : List Char) :
    arguments? (between q s ++ ')' :: more) = some ([s], more) := by
  have hliteral := literal?_between hq hs (')' :: more)
  rw [← dropWhile_between hq s] at hliteral
  rw [arguments?_of_literal? hliteral]
  rfl

end

/-- What is written between the pieces of a text with quotes of both kinds. -/
def quoteArgument : List Char := ", \"'\", ".toList

/-- The pieces between single quotes, and the single quotes between the pieces, are read back as
the arguments of one call. -/
theorem arguments?_pieces (piece : List Char) (pieces : List (List Char))
    (h : ∀ s ∈ piece :: pieces, '\'' ∉ s) (rest : List Char) :
    arguments? (quoteArgument.intercalate ((piece :: pieces).map (between '\'')) ++ ')' :: rest) =
      some ((piece :: pieces).intersperse ['\''], rest) := by
  have hsingle : '\'' = '\'' ∨ '\'' = '"' := .inl rfl
  have hdouble : '"' = '\'' ∨ '"' = '"' := .inr rfl
  induction pieces generalizing piece with
  | nil =>
    have hpiece := h piece List.mem_cons_self
    simp only [List.map_cons, List.map_nil, List.intercalate, List.intersperse,
      List.flatten_cons, List.flatten_nil, List.append_nil]
    exact arguments?_close hsingle hpiece rest
  | cons next pieces ih =>
    have hpiece := h piece List.mem_cons_self
    have htail := ih next fun s hs => h s (List.mem_cons_of_mem piece hs)
    have hsource : quoteArgument.intercalate ((piece :: next :: pieces).map (between '\'')) ++
        ')' :: rest = between '\'' piece ++ ',' :: ' ' :: (between '"' ['\''] ++ ',' :: ' ' ::
          (quoteArgument.intercalate ((next :: pieces).map (between '\'')) ++ ')' :: rest)) := by
      rw [List.map_cons, List.map_cons, List.intercalate_cons_cons]
      simp [quoteArgument, between]
    rw [hsource, arguments?_comma hsingle hpiece, arguments?_space,
      arguments?_comma hdouble (by decide), arguments?_space, htail]
    rfl

/-! ## Texts -/

theorem string?_between {q : Char} (hq : q = '\'' ∨ q = '"') {s : List Char} (hs : q ∉ s)
    (rest : List Char) : string? (between q s ++ rest) = some (s, rest) := by
  have hcall : Text.dropBeginning? "concat".toList (between q s ++ rest) = none := by
    rcases hq with rfl | rfl
    · rfl
    · rfl
  simp only [string?, hcall]
  exact literal?_between hq hs rest

theorem toList_literal (s : String) : (literal s).toList =
    if '\'' ∉ s.toList then between '\'' s.toList
    else if '"' ∉ s.toList then between '"' s.toList
    else "concat(".toList ++ (quoteArgument.intercalate
      ((Text.splitChars (· == '\'') s.toList).map (between '\'')) ++ [')']) := by
  unfold literal
  by_cases hsingle : '\'' ∈ s.toList
  · by_cases hdouble : '"' ∈ s.toList
    · simp only [List.contains_eq_mem, hsingle, hdouble, decide_true, Bool.not_true,
        Bool.false_eq_true, if_false, not_true, String.toList_append, String.toList_intercalate,
        Text.split, List.map_map, List.append_assoc]
      congr 3
      refine List.map_congr_left fun piece _ => ?_
      show ("'" ++ String.ofList piece ++ "'").toList = between '\'' piece
      simp [between]
    · simp only [List.contains_eq_mem, hsingle, hdouble, decide_true, decide_false, Bool.not_true,
        Bool.not_false, Bool.false_eq_true, if_false, if_true, not_true, not_false_iff]
      show ("\"" ++ s ++ "\"").toList = between '"' s.toList
      simp [between]
  · simp only [List.contains_eq_mem, hsingle, decide_false, Bool.not_false, if_true,
      not_false_iff]
    show ("'" ++ s ++ "'").toList = between '\'' s.toList
    simp [between]

/-- The expression for a text denotes the text, and ends where it ends, whatever follows. -/
theorem string?_literal (s : String) (rest : List Char) :
    string? ((literal s).toList ++ rest) = some (s.toList, rest) := by
  rw [toList_literal]
  by_cases hsingle : '\'' ∈ s.toList
  · by_cases hdouble : '"' ∈ s.toList
    · rw [if_neg (by simpa using hsingle), if_neg (by simpa using hdouble)]
      obtain ⟨piece, pieces, hpieces⟩ :=
        List.exists_cons_of_ne_nil (Text.splitChars_ne_nil (· == '\'') s.toList)
      have hlength := Text.two_le_length_splitChars hsingle
      have hjoin := Text.join_splitChars '\'' s.toList
      have hfree : ∀ t ∈ piece :: pieces, '\'' ∉ t := by
        rw [← hpieces]
        exact fun t => Text.not_mem_of_mem_splitChars
      rw [hpieces] at hlength hjoin ⊢
      have harguments := arguments?_pieces piece pieces hfree rest
      have hcount : 2 ≤ ((piece :: pieces).intersperse ['\'']).length := by
        rw [List.length_intersperse]
        omega
      have hcall : Text.dropBeginning? "concat".toList ("concat(".toList ++
          (quoteArgument.intercalate ((piece :: pieces).map (between '\'')) ++ [')']) ++ rest) =
          some ('(' :: (quoteArgument.intercalate ((piece :: pieces).map (between '\'')) ++
            ')' :: rest)) := by
        rw [Text.dropBeginning?_eq_some]
        simp
      have hopen : ∀ cs, ('(' :: cs).dropWhile isSpace = '(' :: cs := fun _ => rfl
      simp only [string?, hcall, hopen, harguments, Option.bind_some, if_pos hcount]
      rw [← hjoin]
      rfl
    · rw [if_neg (by simpa using hsingle), if_pos hdouble]
      exact string?_between (.inr rfl) hdouble rest
  · rw [if_pos hsingle]
    exact string?_between (.inl rfl) hsingle rest

end XPath

end CestExport
