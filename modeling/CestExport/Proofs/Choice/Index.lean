import CestExport.Proofs.Choice
import CestExport.Proofs.Number.Digits

/-!
# Choices by index

A choice that cannot be interpreted is refused as a locator is, and an index counts
the options from zero.  The test whether an index is written in digits lets more pass
than can be read as a number: digits without a place value, digits between separators,
and more of them than may be read or shown.  What passes the test and is not read ends
in a failure of another family.

    Answered choice  ↔  Regular choice                    (choice_answered_iff)
-/

namespace CestExport.Choice

open Number

/-! ## Algorithm -/

/-- A text that, the blanks around it apart, is the decimal digits of a number. -/
def Counts (value : String) (n : Nat) : Prop :=
  ∃ vs : List Nat, vs ≠ [] ∧ (Text.trim value).toList.map Text.digitValue? = vs.map some ∧
    n = placeValue vs

/-- The expression for the option at an index, counted from zero. -/
def optionAt (n : Nat) : String := Locator.by "xpath" s!"(.//option)[{decimal (n + 1)}]"

/-- A choice has an expression or is refused as a locator is, and the numbers are the indices. -/
structure Answered (choice : String) : Prop where
  refuses : ∀ f, resolve choice = .error f → f.kind = .locatorSyntax
  counts : ∀ v n, choice = "index=" ++ v → (resolve choice = .ok (optionAt n) ↔ Counts v n)

/-- Digits that can be read, of a number whose successor can be shown. -/
structure Readable (value : String) : Prop where
  blanks : ∀ c ∈ value.toList, Text.isBlank c = true → Text.isNumberBlank c = true
  decimals : ∀ c ∈ (Text.trim value).toList, (Text.digitValue? c).isSome = true
  short : (Text.trim value).toList.length ≤ digitLimit
  next : digitsValue (Text.trim value).toList + 1 < tenTo digitLimit

/-- An index that passes for digits can be read. -/
def Regular (choice : String) : Prop :=
  ∀ v, choice = "index=" ++ v → Text.isDigits (Text.trim v) = true → Readable v

/-! ## Numbers in digits -/

theorem Counts.isDigits {v : String} {n : Nat} (h : Counts v n) :
    Text.isDigits (Text.trim v) = true := by
  obtain ⟨vs, hne, hvalues, -⟩ := h
  exact isDigits_of_values hne hvalues

theorem Counts.unique {v : String} {m n : Nat} (hm : Counts v m) (hn : Counts v n) : m = n := by
  obtain ⟨vs, -, hvs, rfl⟩ := hm
  obtain ⟨ws, -, hws, rfl⟩ := hn
  rw [← digitsValue_of_values hvs, ← digitsValue_of_values hws]

/-- What trimming leaves, and the blanks that it takes away. -/
theorem trim_between (v : String) : ∃ front back,
    v.toList = front ++ (Text.trim v).toList ++ back ∧
      (∀ c ∈ front, Text.isBlank c = true) ∧ ∀ c ∈ back, Text.isBlank c = true := by
  rw [Text.trim, String.toList_ofList]
  exact Text.trimChars_append Text.isBlank v.toList

section

variable {v : String} (hdigits : Text.isDigits (Text.trim v) = true)
include hdigits

theorem trimChars_of_blanks
    (hblanks : ∀ c ∈ v.toList, Text.isBlank c = true → Text.isNumberBlank c = true) :
    Text.trimChars Text.isNumberBlank v.toList = (Text.trim v).toList := by
  obtain ⟨front, back, hv, hfront, hback⟩ := trim_between v
  conv_lhs => rw [hv]
  refine Text.trimChars_between (fun c hc => ?_) (fun c hc => ?_) (fun c hc => ?_)
  · exact hblanks c (by rw [hv]; simp [hc]) (hfront c hc)
  · exact Text.isNumberBlank_of_isDigit ((isDigits_iff.1 hdigits).2 c hc)
  · exact hblanks c (by rw [hv]; simp [hc]) (hback c hc)

/-- Nothing is read as a number but decimal digits, with blanks around them that may stand there. -/
theorem blanks_of_readWhole {i : Int} (h : readWhole v = .ok i) :
    (∀ c ∈ v.toList, Text.isBlank c = true → Text.isNumberBlank c = true) ∧
      ∀ c ∈ (Text.trim v).toList, (Text.digitValue? c).isSome = true := by
  have hread := isDigitOrSeparator_of_readWhole h
  constructor
  · intro c hc hblank
    rcases hread c hc with hc | rfl | rfl | hc
    · exact hc
    · cases hblank
    · cases hblank
    · rw [isDigitOrSeparator, Bool.or_eq_true, beq_iff_eq] at hc
      rcases hc with hc | rfl
      · obtain ⟨d, hd⟩ := Option.isSome_iff_exists.1 hc
        have hdigit := Text.isDigit_of_digitValue? hd
        rw [Text.isDigit_of_isBlank hblank] at hdigit
        cases hdigit
      · cases hblank
  · intro c hc
    have hdigit := (isDigits_iff.1 hdigits).2 c hc
    obtain ⟨front, back, hv, -, -⟩ := trim_between v
    rcases hread c (by rw [hv]; simp [hc]) with hc | rfl | rfl | hc
    · rw [Text.isNumberBlank_of_isDigit hdigit] at hc
      cases hc
    · cases hdigit
    · cases hdigit
    · rw [isDigitOrSeparator, Bool.or_eq_true, beq_iff_eq] at hc
      rcases hc with hc | rfl
      · exact hc
      · cases hdigit

theorem counts_of_decimals
    (hdecimals : ∀ c ∈ (Text.trim v).toList, (Text.digitValue? c).isSome = true) :
    Counts v (digitsValue (Text.trim v).toList) := by
  obtain ⟨vs, hne, hvalues⟩ := exists_values_of_isSome (isDigits_iff.1 hdigits).1 hdecimals
  exact ⟨vs, hne, hvalues, digitsValue_of_values hvalues⟩

theorem readWhole_of_decimals
    (hblanks : ∀ c ∈ v.toList, Text.isBlank c = true → Text.isNumberBlank c = true)
    (hdecimals : ∀ c ∈ (Text.trim v).toList, (Text.digitValue? c).isSome = true) : readWhole v =
      if digitLimit < (Text.trim v).toList.length then
        .error (.tooManyDigits (Text.trim v).toList.length)
      else .ok (digitsValue (Text.trim v).toList) := by
  obtain ⟨vs, hne, hvalues⟩ := exists_values_of_isSome (isDigits_iff.1 hdigits).1 hdecimals
  have hlength : (Text.trim v).toList.length = vs.length := by
    simpa using congrArg List.length hvalues
  rw [readWhole_of_trimmed (trimChars_of_blanks hdigits hblanks) hne hvalues, hlength,
    digitsValue_of_values hvalues]

/-! ## Indices -/

theorem atIndex_of_readable (choice : String) (h : Readable v) : atIndex choice v =
    .ok s!"(.//option)[{decimal (digitsValue (Text.trim v).toList + 1)}]" := by
  have hread := readWhole_of_decimals hdigits h.blanks h.decimals
  rw [if_neg (not_lt.2 h.short)] at hread
  have hshow : showWhole (digitsValue (Text.trim v).toList + 1 : Int) =
      .ok (decimal (digitsValue (Text.trim v).toList + 1)) := by
    have hnext : (digitsValue (Text.trim v).toList + 1 : Int).natAbs < tenTo digitLimit := by
      have := h.next
      omega
    rw [showWhole, if_pos (by simpa only [isShowable, decide_eq_true_eq] using hnext)]
  rw [atIndex, if_pos hdigits]
  exact bind_eq_ok.2 ⟨_, mapError_eq_ok.2 hread, bind_eq_ok.2 ⟨_, mapError_eq_ok.2 hshow, rfl⟩⟩

theorem readable_of_atIndex {choice path : String} (h : atIndex choice v = .ok path) :
    Readable v := by
  rw [atIndex, if_pos hdigits] at h
  obtain ⟨i, hread, h⟩ := bind_eq_ok.1 h
  obtain ⟨place, hshow, -⟩ := bind_eq_ok.1 h
  rw [mapError_eq_ok] at hread hshow
  obtain ⟨hblanks, hdecimals⟩ := blanks_of_readWhole hdigits hread
  rw [readWhole_of_decimals hdigits hblanks hdecimals] at hread
  split at hread
  next => cases hread
  next hshort =>
    obtain rfl := Except.ok.inj hread
    refine ⟨hblanks, hdecimals, not_lt.1 hshort, ?_⟩
    rw [showWhole] at hshow
    split at hshow
    next hnext =>
      simp only [isShowable, decide_eq_true_eq] at hnext
      omega
    next => cases hshow

/-- What passes for digits fails, if it fails, as a number. -/
theorem atIndex_error {choice : String} {f : Failure} (h : atIndex choice v = .error f) :
    ∃ cause, f = .whole cause := by
  rw [atIndex, if_pos hdigits] at h
  rcases bind_eq_error.1 h with h | ⟨i, -, h⟩
  · obtain ⟨cause, -, rfl⟩ := mapError_eq_error.1 h
    exact ⟨cause, rfl⟩
  · rcases bind_eq_error.1 h with h | ⟨place, -, h⟩
    · obtain ⟨cause, -, rfl⟩ := mapError_eq_error.1 h
      exact ⟨cause, rfl⟩
    · cases h

end

/-! ## Choices -/

theorem path_index (v : String) : path ("index=" ++ v) = atIndex ("index=" ++ v) v := by
  have hsplit : split ("index=" ++ v) = ("index", v) :=
    @split_of_kind "index" (by decide) v
  rw [path, hsplit]
  simp

theorem resolve_index (v : String) :
    resolve ("index=" ++ v) = (atIndex ("index=" ++ v) v).map (Locator.by "xpath") := by
  have hne : "index=" ++ v ≠ "" := by
    intro hempty
    simpa using congrArg String.toList hempty
  rw [resolve, if_neg hne, path_index]

theorem optionAt_inj {m n : Nat} (h : optionAt m = optionAt n) : m = n := by
  have hread := congrArg Locator.read? h
  rw [optionAt, optionAt, Locator.read?_by (by decide), Locator.read?_by (by decide)] at hread
  have hpath : "(.//option)[" ++ decimal (m + 1) ++ "]" = "(.//option)[" ++ decimal (n + 1) ++ "]" :=
    (Prod.mk.inj (Option.some.inj hread)).2
  have hplace := decimal_inj ((String.append_right_inj _).1 ((String.append_left_inj _).1 hpath))
  omega

/-- An index in digits that can be read has the expression for its option, and no other. -/
theorem answered_of_readable {v : String} (hdigits : Text.isDigits (Text.trim v) = true)
    (h : Readable v) : Answered ("index=" ++ v) := by
  have hresolve : resolve ("index=" ++ v) = .ok (optionAt (digitsValue (Text.trim v).toList)) := by
    rw [resolve_index, atIndex_of_readable hdigits _ h]
    rfl
  have hcounts := counts_of_decimals hdigits h.decimals
  refine ⟨fun f hf => ?_, fun w n hw => ?_⟩
  · rw [hresolve] at hf
    cases hf
  · obtain rfl := (String.append_right_inj _).1 hw
    rw [hresolve]
    constructor
    · intro heq
      rwa [← optionAt_inj (Except.ok.inj heq)]
    · intro hn
      rw [hn.unique hcounts]

/-- An index in digits that cannot be read fails in another family. -/
theorem resolve_of_not_readable {v : String} (hdigits : Text.isDigits (Text.trim v) = true)
    (h : ¬Readable v) : ∃ cause, resolve ("index=" ++ v) = .error (.whole cause) := by
  cases hat : atIndex ("index=" ++ v) v with
  | ok path => exact absurd (readable_of_atIndex hdigits hat) h
  | error f =>
    obtain ⟨cause, rfl⟩ := atIndex_error hdigits hat
    exact ⟨cause, by rw [resolve_index, hat]; rfl⟩

/-- An index in other characters is refused. -/
theorem answered_of_not_digits {v : String} (hdigits : Text.isDigits (Text.trim v) = false) :
    Answered ("index=" ++ v) := by
  have hresolve : resolve ("index=" ++ v) = .error (.choiceIndex ("index=" ++ v)) := by
    rw [resolve_index, atIndex, if_neg (by simp [hdigits])]
    rfl
  refine ⟨fun f hf => ?_, fun w n hw => ?_⟩
  · rw [hresolve] at hf
    cases hf
    rfl
  · obtain rfl := (String.append_right_inj _).1 hw
    rw [hresolve]
    refine iff_of_false ?_ fun hn => ?_
    · rintro ⟨⟩
    · rw [hn.isDigits] at hdigits
      cases hdigits

/-- Choices of the other kinds do not fail, and unknown kinds are refused. -/
theorem answered_of_no_index {choice : String} (h : ∀ v, choice ≠ "index=" ++ v) :
    Answered choice := by
  have hkind : ∀ value, split choice ≠ ("index", value) := by
    intro value hsplit
    rw [split] at hsplit
    cases hcut : Text.cutFirst '=' choice with
    | none =>
      rw [hcut] at hsplit
      exact absurd (Prod.mk.inj hsplit).1 (by decide)
    | some p =>
      rw [hcut, Option.getD_some] at hsplit
      subst hsplit
      refine h value (String.toList_injective ?_)
      rw [(Text.cutFirst_eq_some.1 hcut).1]
      simp
  refine ⟨fun f hf => ?_, fun v n hv => absurd hv (h v)⟩
  rw [resolve] at hf
  split at hf
  · cases hf
    rfl
  · obtain ⟨strategy, value, hsplit⟩ : ∃ strategy value, split choice = (strategy, value) :=
      ⟨_, _, rfl⟩
    rw [map_eq_error, path, hsplit] at hf
    simp only at hf
    split at hf
    · cases hf
    split at hf
    · cases hf
    split at hf
    · cases hf
    split at hf
    next hindex => exact absurd (hsplit.trans (by rw [hindex])) (hkind value)
    next =>
      cases hf
      rfl

/-- The choices that are answered; every other choice is an index in digits, and fails as a number
that cannot be read or shown. -/
theorem choice_answered_iff (choice : String) : (Answered choice ↔ Regular choice) ∧
    (Regular choice ∨ ∃ cause, resolve choice = .error (.whole cause)) := by
  by_cases hindex : ∃ v, choice = "index=" ++ v
  · obtain ⟨v, rfl⟩ := hindex
    cases hdigits : Text.isDigits (Text.trim v) with
    | false =>
      have hregular : Regular ("index=" ++ v) := by
        intro w hw hd
        rw [← (String.append_right_inj _).1 hw, hdigits] at hd
        cases hd
      exact ⟨iff_of_true (answered_of_not_digits hdigits) hregular, .inl hregular⟩
    | true =>
      by_cases hreadable : Readable v
      · have hregular : Regular ("index=" ++ v) := by
          intro w hw _
          rwa [← (String.append_right_inj _).1 hw]
        exact ⟨iff_of_true (answered_of_readable hdigits hreadable) hregular, .inl hregular⟩
      · obtain ⟨cause, hcause⟩ := resolve_of_not_readable hdigits hreadable
        refine ⟨iff_of_false (fun h => ?_) fun h => hreadable (h v rfl hdigits),
          .inr ⟨cause, hcause⟩⟩
        cases h.refuses _ hcause
  · have hregular : Regular choice := fun v hv => absurd ⟨v, hv⟩ hindex
    exact ⟨iff_of_true (answered_of_no_index (not_exists.1 hindex)) hregular, .inl hregular⟩

/-- A superscript passes for a digit, and is none. -/
theorem choice_fails_superscript : ¬Answered "index=²" := by
  intro h
  have hfails : resolve "index=²" = .error (.whole (.unreadable "²")) := by decide +kernel
  cases h.refuses _ hfails

end CestExport.Choice
