import CestExport.Proofs.Address.Line
import CestExport.Proofs.Number.Digits

/-!
# Windows by handle, name and serial number

What the targets of windows mean, and where they are not taken so.  A value that
breaks its line loses the break or is refused; a serial number may have a line break
behind it; and digits without a place value, or more of them than may be read, end in
a failure of another family.

    Answered target  ↔  Regular target                    (window_answered_iff)
-/

namespace CestExport.Address

open Number

/-! ## Algorithm -/

/-- What a target means, if it means a window. -/
inductive Means : String → WindowAddress → Prop
  | handle (v : String) : Means ("handle=" ++ v) (.handle v)
  | name (v : String) : Means ("name=" ++ v) (.name v)
  | here : Means "win_ser_local" (.serial "0")
  | serial {d : String} {vs : List Nat} : vs ≠ [] → d.toList.map Text.digitValue? = vs.map some →
    Means ("win_ser_" ++ d) (.serial (decimal (placeValue vs)))

/-- A failure to address the target. -/
def Refused (target : String) : Prop :=
  ∃ f, window target = .error f ∧ f.kind = .addressing ∧ f.target? = some target

/-- A target is taken for what it means, and refused if it means nothing. -/
structure Answered (target : String) : Prop where
  accepts : ∀ a, Means target a → window target = .ok a
  refuses : (∀ a, ¬Means target a) → Refused target

/-- Values of one line, and serial numbers that can be read. -/
structure Regular (target : String) : Prop where
  handle : ∀ v, target = "handle=" ++ v → '\n' ∉ v.toList
  name : ∀ v, target = "name=" ++ v → '\n' ∉ v.toList
  line : ∀ l, target = "win_ser_" ++ (l ++ "\n") → l ≠ "local" ∧ Text.isDigits l = false
  serial : ∀ d, target = "win_ser_" ++ d → Text.isDigits d = true →
    (∀ c ∈ d.toList, (Text.digitValue? c).isSome = true) ∧ d.toList.length ≤ digitLimit

/-! ## Marks -/

theorem append_ne_append {a b : String} {c d : Char} (ha : a.toList.head? = some c)
    (hb : b.toList.head? = some d) (hne : c ≠ d) (v w : String) : a ++ v ≠ b ++ w := by
  intro h
  have hhead := congrArg (fun s : String => s.toList.head?) h
  simp only [String.toList_append, List.head?_append, ha, hb, Option.some_or,
    Option.some.injEq] at hhead
  exact hne hhead

theorem name_ne_handle (v w : String) : "name=" ++ v ≠ "handle=" ++ w :=
  append_ne_append rfl rfl (by decide) v w

theorem serial_ne_handle (v w : String) : "win_ser_" ++ v ≠ "handle=" ++ w :=
  append_ne_append rfl rfl (by decide) v w

theorem serial_ne_name (v w : String) : "win_ser_" ++ v ≠ "name=" ++ w :=
  append_ne_append rfl rfl (by decide) v w

theorem window_handle (v : String) : window ("handle=" ++ v) =
    match line? v.toList with
    | some l => .ok (.handle (String.ofList l))
    | none => .error (.windowTarget ("handle=" ++ v)) := by
  rw [window, lineAfter?_append]
  cases line? v.toList with
  | some l => rfl
  | none =>
    rw [lineAfter?_eq_none fun w => (name_ne_handle w v).symm,
      lineAfter?_eq_none fun w => (serial_ne_handle w v).symm]
    rfl

theorem window_name (v : String) : window ("name=" ++ v) =
    match line? v.toList with
    | some l => .ok (.name (String.ofList l))
    | none => .error (.windowTarget ("name=" ++ v)) := by
  rw [window, lineAfter?_eq_none (name_ne_handle v), lineAfter?_append]
  cases line? v.toList with
  | some l => rfl
  | none =>
    rw [lineAfter?_eq_none fun w => (serial_ne_name w v).symm]
    rfl

theorem window_serial (s : String) : window ("win_ser_" ++ s) =
    match line? s.toList with
    | some l => serial ("win_ser_" ++ s) (String.ofList l)
    | none => .error (.windowTarget ("win_ser_" ++ s)) := by
  rw [window, lineAfter?_eq_none (serial_ne_handle s), lineAfter?_eq_none (serial_ne_name s),
    lineAfter?_append]
  cases line? s.toList with
  | some l => rfl
  | none => rfl

/-! ## Meanings -/

theorem means_handle_iff {v : String} {a : WindowAddress} :
    Means ("handle=" ++ v) a ↔ a = .handle v := by
  constructor
  · generalize htarget : "handle=" ++ v = target
    intro h
    cases h with
    | handle w => rw [(String.append_right_inj _).1 htarget]
    | name w => exact absurd htarget.symm (name_ne_handle w v)
    | here => exact absurd htarget.symm (serial_ne_handle "local" v)
    | @serial d vs hne hd => exact absurd htarget.symm (serial_ne_handle d v)
  · rintro rfl
    exact .handle v

theorem means_name_iff {v : String} {a : WindowAddress} :
    Means ("name=" ++ v) a ↔ a = .name v := by
  constructor
  · generalize htarget : "name=" ++ v = target
    intro h
    cases h with
    | handle w => exact absurd htarget (name_ne_handle v w)
    | name w => rw [(String.append_right_inj _).1 htarget]
    | here => exact absurd htarget.symm (serial_ne_name "local" v)
    | @serial d vs hne hd => exact absurd htarget.symm (serial_ne_name d v)
  · rintro rfl
    exact .name v

theorem means_serial_iff {s : String} {a : WindowAddress} : Means ("win_ser_" ++ s) a ↔
    (s = "local" ∧ a = .serial "0") ∨ ∃ vs : List Nat, vs ≠ [] ∧
      s.toList.map Text.digitValue? = vs.map some ∧ a = .serial (decimal (placeValue vs)) := by
  constructor
  · generalize htarget : "win_ser_" ++ s = target
    intro h
    cases h with
    | handle w => exact absurd htarget (serial_ne_handle s w)
    | name w => exact absurd htarget (serial_ne_name s w)
    | here => exact .inl ⟨(String.append_right_inj "win_ser_").1 htarget, rfl⟩
    | @serial d vs hne hd =>
      obtain rfl := (String.append_right_inj _).1 htarget
      exact .inr ⟨vs, hne, hd, rfl⟩
  · rintro (⟨rfl, rfl⟩ | ⟨vs, hne, hd, rfl⟩)
    · exact .here
    · exact .serial hne hd

/-! ## Serial numbers -/

theorem isDigits_of_mem_newline {s : String} (h : '\n' ∈ s.toList) : Text.isDigits s = false := by
  cases hs : Text.isDigits s with
  | false => rfl
  | true => exact absurd ((isDigits_iff.1 hs).2 '\n' h) (by decide)

theorem ne_local_of_isDigits {s : String} (h : Text.isDigits s = true) : s ≠ "local" := by
  rintro rfl
  revert h
  decide

/-- A line break is in no serial number. -/
theorem not_means_of_mem_newline {s : String} (h : '\n' ∈ s.toList) (a : WindowAddress) :
    ¬Means ("win_ser_" ++ s) a := by
  intro ha
  rcases means_serial_iff.1 ha with ⟨rfl, -⟩ | ⟨vs, hne, hvalues, -⟩
  · revert h
    decide
  · have hdigits := isDigits_of_values hne hvalues
    rw [isDigits_of_mem_newline h] at hdigits
    cases hdigits

theorem serial_of_isDigits (target : String) {s : String} (h : Text.isDigits s = true) :
    serial target s =
      ((readWhole s).mapError .whole).map fun n => .serial (decimal n) := by
  rw [serial, if_neg (ne_local_of_isDigits h), if_pos h]

/-- What is neither the word nor digits is refused, and nothing else is. -/
theorem serial_refused_iff (target s : String) :
    (∃ f, serial target s = .error f ∧ f.kind = .addressing ∧ f.target? = some target) ↔
      s ≠ "local" ∧ Text.isDigits s = false := by
  constructor
  · rintro ⟨f, hf, hkind, -⟩
    refine ⟨?_, ?_⟩
    · rintro rfl
      cases hf
    · cases hs : Text.isDigits s with
      | false => rfl
      | true =>
        rw [serial_of_isDigits target hs] at hf
        cases hread : readWhole s with
        | ok n =>
          rw [hread] at hf
          cases hf
        | error e =>
          rw [hread] at hf
          cases hf
          cases hkind
  · rintro ⟨hne, hs⟩
    refine ⟨.windowSerial target, ?_, rfl, rfl⟩
    rw [serial, if_neg hne, hs]
    rfl

/-- A serial number on its line is answered if it can be read. -/
theorem answered_of_line {s : String} (hline : '\n' ∉ s.toList) :
    Answered ("win_ser_" ++ s) ↔ (Text.isDigits s = true →
      (∀ c ∈ s.toList, (Text.digitValue? c).isSome = true) ∧ s.toList.length ≤ digitLimit) := by
  have hwindow : window ("win_ser_" ++ s) = serial ("win_ser_" ++ s) s := by
    rw [window_serial, line?_eq_some.2 ⟨hline, .inl rfl⟩]
    simp only [String.ofList_toList]
  by_cases hs : Text.isDigits s = true
  · have hmeans : ∀ a, Means ("win_ser_" ++ s) a → ∃ vs : List Nat, vs ≠ [] ∧
        s.toList.map Text.digitValue? = vs.map some ∧ a = .serial (decimal (placeValue vs)) :=
      fun a ha => (means_serial_iff.1 ha).resolve_left fun h => ne_local_of_isDigits hs h.1
    have hread : ∀ vs : List Nat, vs ≠ [] → s.toList.map Text.digitValue? = vs.map some →
        (window ("win_ser_" ++ s) = .ok (.serial (decimal (placeValue vs))) ↔
          s.toList.length ≤ digitLimit) := by
      intro vs hne hvalues
      have hlength : s.toList.length = vs.length := by
        simpa using congrArg List.length hvalues
      rw [hwindow, serial_of_isDigits _ hs, readWhole_of_values hne hvalues, hlength]
      split
      next hlarge =>
        refine iff_of_false ?_ (not_le.2 hlarge)
        rintro ⟨⟩
      next hsmall => exact iff_of_true rfl (not_lt.1 hsmall)
    constructor
    · intro h _
      obtain ⟨a, ha⟩ : ∃ a, Means ("win_ser_" ++ s) a := by
        by_contra hnone
        have hrefused := h.refuses (not_exists.1 hnone)
        rw [Refused, hwindow, serial_refused_iff, hs] at hrefused
        cases hrefused.2
      obtain ⟨vs, hne, hvalues, rfl⟩ := hmeans a ha
      exact ⟨isSome_of_values hvalues, (hread vs hne hvalues).1 (h.accepts _ ha)⟩
    · intro h
      obtain ⟨hsome, hlength⟩ := h hs
      refine ⟨fun a ha => ?_, fun hnone => ?_⟩
      · obtain ⟨vs, hne, hvalues, rfl⟩ := hmeans a ha
        exact (hread vs hne hvalues).2 hlength
      · obtain ⟨vs, hne, hvalues⟩ := exists_values_of_isSome (isDigits_iff.1 hs).1 hsome
        exact absurd (.serial hne hvalues) (hnone _)
  · refine iff_of_true ⟨fun a ha => ?_, fun hnone => ?_⟩ fun h => absurd h hs
    · rcases means_serial_iff.1 ha with ⟨rfl, rfl⟩ | ⟨vs, hne, hvalues, -⟩
      · rw [hwindow]
        rfl
      · exact absurd (isDigits_of_values hne hvalues) hs
    · rw [Refused, hwindow, serial_refused_iff]
      refine ⟨?_, by simpa using hs⟩
      rintro rfl
      exact hnone _ .here

/-! ## Targets -/

section

variable {mark : String} {address : String → WindowAddress}

/-- A value behind its mark is kept if it has no line break. -/
theorem answered_value_iff (v : String) (hinj : ∀ v w, address v = address w → v = w)
    (hmeans : ∀ a, Means (mark ++ v) a ↔ a = address v)
    (hwindow : window (mark ++ v) = match line? v.toList with
      | some l => .ok (address (String.ofList l))
      | none => .error (.windowTarget (mark ++ v))) :
    Answered (mark ++ v) ↔ '\n' ∉ v.toList := by
  constructor
  · intro h
    have hvalue := h.accepts _ ((hmeans _).2 rfl)
    rw [hwindow] at hvalue
    split at hvalue
    next l hl =>
      rw [← hinj _ _ (Except.ok.inj hvalue), String.toList_ofList]
      exact (line?_eq_some.1 hl).1
    next => cases hvalue
  · intro hline
    refine ⟨fun a ha => ?_, fun hnone => absurd ((hmeans _).2 rfl) (hnone (address v))⟩
    rw [(hmeans a).1 ha, hwindow, line?_eq_some.2 ⟨hline, .inl rfl⟩]
    simp only [String.ofList_toList]

end

theorem answered_handle_iff (v : String) : Answered ("handle=" ++ v) ↔ '\n' ∉ v.toList :=
  answered_value_iff v (fun _ _ h => WindowAddress.handle.inj h) (fun _ => means_handle_iff)
    (window_handle v)

theorem answered_name_iff (v : String) : Answered ("name=" ++ v) ↔ '\n' ∉ v.toList :=
  answered_value_iff v (fun _ _ h => WindowAddress.name.inj h) (fun _ => means_name_iff)
    (window_name v)

theorem answered_serial_iff (s : String) : Answered ("win_ser_" ++ s) ↔
    (∀ l, s = l ++ "\n" → l ≠ "local" ∧ Text.isDigits l = false) ∧
    (Text.isDigits s = true →
      (∀ c ∈ s.toList, (Text.digitValue? c).isSome = true) ∧ s.toList.length ≤ digitLimit) := by
  by_cases hline : '\n' ∈ s.toList
  · have hdigits : Text.isDigits s = false := isDigits_of_mem_newline hline
    have hanswered : Answered ("win_ser_" ++ s) ↔ Refused ("win_ser_" ++ s) :=
      ⟨fun h => h.refuses (not_means_of_mem_newline hline),
        fun h => ⟨fun a ha => absurd ha (not_means_of_mem_newline hline a), fun _ => h⟩⟩
    rw [hanswered, Refused, window_serial]
    cases hl : line? s.toList with
    | some l =>
      obtain ⟨hfree, hlist⟩ := line?_eq_some.1 hl
      have hs : s = String.ofList l ++ "\n" := by
        refine String.toList_injective ?_
        rw [String.toList_append, String.toList_ofList]
        exact hlist.resolve_left fun h => hfree (h ▸ hline)
      rw [serial_refused_iff]
      constructor
      · intro h
        refine ⟨fun l' hl' => ?_, fun hd => absurd hd (by rw [hdigits]; decide)⟩
        rwa [← (String.append_left_inj "\n").1 (hs.symm.trans hl')]
      · exact fun h => h.1 _ hs
    | none =>
      refine iff_of_true ⟨_, rfl, rfl, rfl⟩
        ⟨fun l hs => ?_, fun hd => absurd hd (by rw [hdigits]; decide)⟩
      have hmem : '\n' ∈ l.toList := by
        by_contra hfree
        have hsome := line?_eq_some.2 ⟨hfree, .inr rfl⟩
        rw [hs, String.toList_append] at hl
        rw [show "\n".toList = ['\n'] from rfl, hsome] at hl
        cases hl
      refine ⟨?_, isDigits_of_mem_newline hmem⟩
      rintro rfl
      exact absurd hmem (by decide)
  · rw [answered_of_line hline]
    refine ⟨fun h => ⟨?_, h⟩, fun h => h.2⟩
    rintro l rfl
    exact absurd (by simp) hline

/-- A target without a mark is refused. -/
theorem answered_of_no_mark {target : String} (hhandle : ∀ v, target ≠ "handle=" ++ v)
    (hname : ∀ v, target ≠ "name=" ++ v) (hserial : ∀ s, target ≠ "win_ser_" ++ s) :
    Answered target := by
  refine ⟨fun a ha => ?_, fun _ => ⟨.windowTarget target, ?_, rfl, rfl⟩⟩
  · cases ha with
    | handle v => exact absurd rfl (hhandle v)
    | name v => exact absurd rfl (hname v)
    | here => exact absurd rfl (hserial "local")
    | @serial d vs hne hd => exact absurd rfl (hserial d)
  · rw [window, lineAfter?_eq_none hhandle, lineAfter?_eq_none hname, lineAfter?_eq_none hserial]

/-- The targets that are taken for what they mean. -/
theorem window_answered_iff (target : String) : Answered target ↔ Regular target := by
  by_cases hhandle : ∃ v, target = "handle=" ++ v
  · obtain ⟨v, rfl⟩ := hhandle
    rw [answered_handle_iff]
    refine ⟨fun h => ⟨fun w hw => ?_, fun w hw => ?_, fun l hl => ?_, fun d hd => ?_⟩,
      fun h => h.handle v rfl⟩
    · rwa [← (String.append_right_inj _).1 hw]
    · exact absurd hw.symm (name_ne_handle w v)
    · exact absurd hl.symm (serial_ne_handle _ v)
    · exact absurd hd.symm (serial_ne_handle d v)
  by_cases hname : ∃ v, target = "name=" ++ v
  · obtain ⟨v, rfl⟩ := hname
    rw [answered_name_iff]
    refine ⟨fun h => ⟨fun w hw => ?_, fun w hw => ?_, fun l hl => ?_, fun d hd => ?_⟩,
      fun h => h.name v rfl⟩
    · exact absurd hw (name_ne_handle v w)
    · rwa [← (String.append_right_inj _).1 hw]
    · exact absurd hl.symm (serial_ne_name _ v)
    · exact absurd hd.symm (serial_ne_name d v)
  by_cases hserial : ∃ s, target = "win_ser_" ++ s
  · obtain ⟨s, rfl⟩ := hserial
    rw [answered_serial_iff]
    constructor
    · rintro ⟨hline, hdigits⟩
      refine ⟨fun w hw => ?_, fun w hw => ?_, fun l hl => ?_, fun d hd => ?_⟩
      · exact absurd hw (serial_ne_handle s w)
      · exact absurd hw (serial_ne_name s w)
      · exact hline l ((String.append_right_inj _).1 hl)
      · rwa [← (String.append_right_inj _).1 hd]
    · intro h
      exact ⟨fun l hl => h.line l (by rw [hl]), h.serial s rfl⟩
  · refine iff_of_true (answered_of_no_mark (not_exists.1 hhandle) (not_exists.1 hname)
      (not_exists.1 hserial)) ⟨fun v hv => ?_, fun v hv => ?_, fun l hl => ?_, fun d hd => ?_⟩
    · exact absurd ⟨v, hv⟩ hhandle
    · exact absurd ⟨v, hv⟩ hname
    · exact absurd ⟨_, hl⟩ hserial
    · exact absurd ⟨d, hd⟩ hserial

/-- A superscript is a digit without a place value. -/
theorem not_answered_superscript : ¬Answered "win_ser_²" := by
  intro h
  have hfails : window "win_ser_²" = .error (.whole (.unreadable "²")) := by decide +kernel
  have hnone : ∀ a, ¬Means ("win_ser_" ++ "²") a := by
    intro a ha
    rcases means_serial_iff.1 ha with ⟨hlocal, -⟩ | ⟨vs, -, hvalues, -⟩
    · revert hlocal
      decide
    · exact absurd (isSome_of_values hvalues '²' (by decide)) (by decide)
  obtain ⟨f, hf, hkind, -⟩ := h.refuses hnone
  rw [hfails] at hf
  cases hf
  cases hkind

end CestExport.Address
