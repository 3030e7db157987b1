import CestExport.Proofs.Config.Precedence

/-!
# Loading a settings file

Whether a mapping can be loaded is decided by the first of its entries that cannot
be passed over: an infinity for a number, or a value whose text is needed and holds
a whole number with too many digits.  If there is none, every value that can be
converted is applied, and the others are noted and change nothing.

    enterAll es c fails  ↔  an entry aborts, and its cause is that of the
      first one                                            (enterAll_eq_error_iff)
    c.enterFile d path = .ok c'  →  each setting is what the mapping gives, if
      it can be converted, and as before else                   (enterFile_outcome)
-/

namespace CestExport

open Data (textKeys)

namespace Config

/-! ## Algorithm -/

/-- An entry that can be neither applied nor passed over, and why. -/
inductive Aborts : Data × Data → UnusableNumber → Prop
  | infinite {s : Setting} (negative : Bool) : s.kind = .number →
    Aborts (.text s.name, .real (.infinite negative)) .infinite
  | tooLong {s : Setting} {d : Data} : s.kind ≠ .number → d.isShowable = false →
    Aborts (.text s.name, d) .tooLongToShow

/-- Every entry can be applied or passed over. -/
def NoneAborts (es : List (Data × Data)) : Prop :=
  ∀ e ∈ es, ∀ cause, ¬Aborts e cause

/-- Why the first entry that cannot be passed over cannot. -/
def FirstAborts (es : List (Data × Data)) (cause : UnusableNumber) : Prop :=
  ∃ before e after, es = before ++ e :: after ∧ NoneAborts before ∧ Aborts e cause

/-- What is noted of an entry that is applied or passed over. -/
def notes (e : Data × Data) : List Event :=
  match Setting.ofKey? e.1 with
  | none => [.unknownKey e.1.display]
  | some s =>
    match e.2 with
    | .null => []
    | d => if (s.converted? d).isSome then [] else [.badNumber s.name d.display]

/-- The entries of a settings file, if it holds a mapping. -/
def mapping (d : Disk) (path : Path) : Except SettingsFault (List (Data × Data)) :=
  fileData d path >>= dataEntries path

/-- The settings that entries leave behind, and what is noted of them. -/
structure Applied (es : List (Data × Data)) (c c' : Config) (events : List Event) : Prop where
  /-- What can be converted is applied. -/
  applied : ∀ (s : Setting) v w, (.text s.name, v) ∈ es → s.given? v = some w → c'.get s = w
  /-- A setting without a value that can be converted is kept. -/
  kept : ∀ s : Setting, (∀ v, (.text s.name, v) ∈ es → s.given? v = none) → c'.get s = c.get s
  /-- What cannot be converted is meant for a number, and noted. -/
  warned : ∀ (s : Setting) v, (.text s.name, v) ∈ es → v ≠ .null → s.converted? v = none →
    s.kind = .number ∧ .badNumber s.name v.display ∈ events
  /-- There are no other warnings, and they stand in the order of the entries. -/
  warnings : events.filter (·.severity = .warning) = es.flatMap notes

/-! ## Values -/

section

variable {s : Setting} {d : Data} {cause : UnusableNumber}

theorem number_eq_error_iff : d.number = .error cause ↔
    (∃ negative, d = .real (.infinite negative)) ∧ cause = .infinite := by
  cases d with
  | real x => cases x <;> simp [Data.number, eq_comm]
  | _ => simp [Data.number]

theorem shown_eq_error_iff :
    d.shown = .error cause ↔ d.isShowable = false ∧ cause = .tooLongToShow := by
  unfold Data.shown
  cases d.isShowable <;> simp [eq_comm]

theorem truth_eq_error_iff :
    d.truth = .error cause ↔ d.isShowable = false ∧ cause = .tooLongToShow := by
  cases d with
  | bool b => simp [Data.truth, Data.isShowable]
  | _ => simp [Data.truth, map_eq_error, shown_eq_error_iff]

/-- The conversion of a value is an error just if its entry cannot be passed over. -/
theorem convert_eq_error_iff : s.kind.convert d = .error cause ↔ Aborts (.text s.name, d) cause := by
  have hinversion : Aborts (.text s.name, d) cause ↔
      (s.kind = .number ∧ (∃ negative, d = .real (.infinite negative)) ∧ cause = .infinite) ∨
        (s.kind ≠ .number ∧ d.isShowable = false ∧ cause = .tooLongToShow) := by
    constructor
    · generalize hkey : Data.text s.name = key
      intro h
      cases h with
      | infinite negative hkind =>
        obtain rfl := Setting.name_inj (Data.text.inj hkey)
        exact .inl ⟨hkind, ⟨negative, rfl⟩, rfl⟩
      | tooLong hkind hlong =>
        obtain rfl := Setting.name_inj (Data.text.inj hkey)
        exact .inr ⟨hkind, hlong, rfl⟩
    · rintro (⟨hkind, ⟨negative, rfl⟩, rfl⟩ | ⟨hkind, hlong, rfl⟩)
      · exact .infinite negative hkind
      · exact .tooLong hkind hlong
  rw [hinversion]
  cases hkind : s.kind with
  | text => simp [SettingKind.convert, map_eq_error, shown_eq_error_iff]
  | number => simp [SettingKind.convert, number_eq_error_iff]
  | truth => simp [SettingKind.convert, map_eq_error, truth_eq_error_iff]

/-- Only a number can be inconvertible without being an error. -/
theorem kind_of_inconvertible (h : s.kind.convert d = .ok none) : s.kind = .number := by
  cases hkind : s.kind with
  | number => rfl
  | text | truth =>
    rw [hkind] at h
    obtain ⟨w, -, hw⟩ := map_eq_ok.1 h
    cases hw

end

/-! ## Entries -/

section

variable {c c' : Config} {es : List (Data × Data)} {e : Data × Data} {cause : UnusableNumber}

theorem Aborts.exists_setting (h : Aborts e cause) : ∃ s : Setting, e.1 = .text s.name := by
  cases h with
  | infinite | tooLong => exact ⟨_, rfl⟩

/-- An entry cannot be passed over for one reason alone. -/
theorem Aborts.unique {cause' : UnusableNumber} (h : Aborts e cause) (h' : Aborts e cause') :
    cause = cause' := by
  obtain ⟨key, d⟩ := e
  obtain ⟨s, rfl⟩ := h.exists_setting
  have hcause := convert_eq_error_iff.2 h
  rw [convert_eq_error_iff.2 h'] at hcause
  exact (Except.error.inj hcause).symm

theorem not_aborts_of_unknown (h : Setting.ofKey? e.1 = none) : ¬Aborts e cause := by
  intro haborts
  obtain ⟨s, hs⟩ := haborts.exists_setting
  rw [Setting.ofKey?_eq_some.2 hs] at h
  cases h

theorem not_aborts_null {key : Data} : ¬Aborts (key, .null) cause := by
  intro h
  cases h with
  | tooLong _ hlong => cases hlong

section

variable {s : Setting} {d : Data} (hnull : d ≠ .null)

include hnull

theorem enter_of_error (h : s.kind.convert d = .error cause) (c : Config) :
    c.enter (.text s.name) d = ⟨.error (.number cause), []⟩ := by
  have hof : Setting.ofKey? (.text s.name) = some s := Setting.ofKey?_eq_some.2 rfl
  cases d with
  | null => exact absurd rfl hnull
  | _ => simp only [enter, hof, h]

/-- A value that is no error to convert is applied, or else noted. -/
theorem enter_of_ok {value : Option s.kind.Value} (h : s.kind.convert d = .ok value)
    (c : Config) : c.enter (.text s.name) d =
      ⟨.ok ((value.map (c.set s)).getD c), notes (.text s.name, d)⟩ := by
  have hof : Setting.ofKey? (.text s.name) = some s := Setting.ofKey?_eq_some.2 rfl
  have hconverted : s.converted? d = value := by rw [Setting.converted?, h]
  cases d with
  | null => exact absurd rfl hnull
  | _ => cases value <;> simp [enter, notes, hof, h, hconverted]

end

/-- All that entering an entry can do: it fails for an entry that cannot be passed over, and notes
any other. -/
theorem enter_cases (c : Config) (e : Data × Data) :
    (∃ cause, Aborts e cause ∧ c.enter e.1 e.2 = ⟨.error (.number cause), []⟩) ∨
      ((∀ cause, ¬Aborts e cause) ∧ ∃ c', c.enter e.1 e.2 = ⟨.ok c', notes e⟩) := by
  obtain ⟨key, d⟩ := e
  cases hof : Setting.ofKey? key with
  | none => exact .inr ⟨fun _ => not_aborts_of_unknown hof, c, by simp [enter, notes, hof]⟩
  | some s =>
    by_cases hnull : d = .null
    · subst hnull
      exact .inr ⟨fun _ => not_aborts_null, c, by simp [enter, notes, hof]⟩
    · obtain rfl := Setting.ofKey?_eq_some.1 hof
      cases hconvert : s.kind.convert d with
      | error cause =>
        exact .inl ⟨cause, convert_eq_error_iff.1 hconvert, enter_of_error hnull hconvert c⟩
      | ok value =>
        refine .inr ⟨fun cause haborts => ?_, _, enter_of_ok hnull hconvert c⟩
        rw [convert_eq_error_iff.2 haborts] at hconvert
        cases hconvert

/-- Entries that can be passed over are noted one after the other. -/
theorem enterAll_of_noneAborts (h : NoneAborts es) (c : Config) :
    ∃ c', enterAll es c = ⟨.ok c', es.flatMap notes⟩ := by
  induction es generalizing c with
  | nil => exact ⟨c, rfl⟩
  | cons e es ih =>
    obtain ⟨hhead, htail⟩ := List.forall_mem_cons.1 h
    obtain ⟨cause, haborts, -⟩ | ⟨-, c₁, henter⟩ := enter_cases c e
    · exact absurd haborts (hhead cause)
    · obtain ⟨c', hrest⟩ := ih htail c₁
      exact ⟨c', by simp [enterAll, henter, Noted.andThen, hrest]⟩

/-- The first entry that cannot be passed over ends the run. -/
theorem enterAll_of_firstAborts (h : FirstAborts es cause) (c : Config) :
    (enterAll es c).result = .error (.number cause) := by
  obtain ⟨before, e, after, rfl, hbefore, haborts⟩ := h
  induction before generalizing c with
  | nil =>
    obtain ⟨cause', haborts', henter⟩ | ⟨hnone, -⟩ := enter_cases c e
    · rw [List.nil_append, enterAll, henter, haborts.unique haborts']
      rfl
    · exact absurd haborts (hnone cause)
  | cons x before ih =>
    obtain ⟨hhead, htail⟩ := List.forall_mem_cons.1 hbefore
    obtain ⟨cause', haborts', -⟩ | ⟨-, c₁, henter⟩ := enter_cases c x
    · exact absurd haborts' (hhead cause')
    · rw [List.cons_append, enterAll, henter]
      exact ih c₁ htail

theorem noneAborts_or_exists_first (es : List (Data × Data)) :
    NoneAborts es ∨ ∃ cause, FirstAborts es cause := by
  induction es with
  | nil => exact .inl (by simp [NoneAborts])
  | cons e es ih =>
    by_cases hhead : ∃ cause, Aborts e cause
    · obtain ⟨cause, hcause⟩ := hhead
      exact .inr ⟨cause, [], e, es, rfl, by simp [NoneAborts], hcause⟩
    · have hpassed := not_exists.1 hhead
      obtain htail | ⟨cause, before, x, after, rfl, hbefore, hx⟩ := ih
      · exact .inl (List.forall_mem_cons.2 ⟨hpassed, htail⟩)
      · refine .inr ⟨cause, e :: before, x, after, rfl, ?_, hx⟩
        exact List.forall_mem_cons.2 ⟨hpassed, hbefore⟩

/-- Entries fail exactly for the first of them that cannot be passed over. -/
theorem enterAll_eq_error_iff {f : SettingsFault} : (enterAll es c).result = .error f ↔
    ∃ cause, FirstAborts es cause ∧ f = .number cause := by
  constructor
  · intro h
    obtain hnone | ⟨cause, hfirst⟩ := noneAborts_or_exists_first es
    · obtain ⟨c', hok⟩ := enterAll_of_noneAborts hnone c
      rw [hok] at h
      cases h
    · rw [enterAll_of_firstAborts hfirst] at h
      cases h
      exact ⟨cause, hfirst, rfl⟩
  · rintro ⟨cause, hfirst, rfl⟩
    exact enterAll_of_firstAborts hfirst c

end

/-! ## Notes -/

theorem severity_of_mem_notes {e : Data × Data} {x : Event} (h : x ∈ notes e) :
    x.severity = .warning := by
  unfold notes at h
  split at h
  · obtain rfl := List.mem_singleton.1 h
    rfl
  · split at h
    · cases h
    · split at h
      · cases h
      · obtain rfl := List.mem_singleton.1 h
        rfl

theorem filter_notes (es : List (Data × Data)) :
    (es.flatMap notes).filter (·.severity = .warning) = es.flatMap notes := by
  rw [List.filter_eq_self]
  intro x hx
  obtain ⟨e, -, he⟩ := List.mem_flatMap.1 hx
  simpa using severity_of_mem_notes he

/-- A value that cannot be converted is noted, if it is not an error. -/
theorem badNumber_mem_notes {s : Setting} {v : Data} (hnull : v ≠ .null)
    (hnone : s.converted? v = none) : .badNumber s.name v.display ∈ notes (.text s.name, v) := by
  unfold notes
  rw [Setting.ofKey?_eq_some.2 rfl]
  cases v with
  | null => exact absurd rfl hnull
  | _ => simp [hnone]

/-! ## Files -/

section

variable {c c' : Config} {d : Disk} {path : Path} {es : List (Data × Data)}

theorem result_enterFile (c : Config) (d : Disk) (path : Path) :
    (c.enterFile d path).result = mapping d path >>= fun es => (enterAll es c).result := by
  rw [enterFile, Noted.result_andThen, mapping]
  cases fileData d path with
  | error f => rfl
  | ok data => exact result_enterData c path data

/-- Loading a mapping notes its entries, and nothing else that matters. -/
theorem warnings_enterFile (hes : mapping d path = .ok es) (h : NoneAborts es) :
    (c.enterFile d path).events.filter (·.severity = .warning) = es.flatMap notes := by
  obtain ⟨data, hdata, hentries⟩ := bind_eq_ok.1 hes
  obtain ⟨c', hok⟩ := enterAll_of_noneAborts h c
  have hfile : (c.enterFile d path).events = (c.enterData path data).events := by
    simp [enterFile, hdata, Noted.quiet, Noted.andThen]
  rw [hfile]
  by_cases hnull : data = .null
  · subst hnull
    cases hentries
    rfl
  · rw [dataEntries_of_ne_null hnull] at hentries
    split at hentries
    next hsome =>
      cases hentries
      have henter : (c.enterData path data).events =
          es.flatMap notes ++ [.settingsFileLoaded path.display] := by
        unfold enterData
        split
        next => exact absurd rfl hnull
        next => simp [hsome, hok, Noted.andThen]
      have hloaded : (Event.settingsFileLoaded path.display).severity ≠ .warning := by
        simp [Event.severity]
      rw [henter, List.filter_append, filter_notes]
      simp [hloaded]
    next => cases hentries

/-- The entries of a mapping have different text keys. -/
theorem nodup_textKeys_mapping (hes : mapping d path = .ok es) : (textKeys es).Nodup := by
  obtain ⟨data, hdata, hentries⟩ := bind_eq_ok.1 hes
  exact nodup_textKeys_dataEntries hdata hentries

theorem applied_enterFile (hes : mapping d path = .ok es) (h : NoneAborts es)
    (hok : (c.enterFile d path).result = .ok c') :
    Applied es c c' (c.enterFile d path).events := by
  have hkeys := nodup_textKeys_mapping hes
  have hwarnings := warnings_enterFile (c := c) hes h
  have hall : (enterAll es c).result = .ok c' := by
    rwa [result_enterFile, hes] at hok
  have hget : ∀ s, c'.get s = (s.entered? es).getD (c.get s) := get_enterAll hkeys hall
  have hfound : ∀ (s : Setting) v, (.text s.name, v) ∈ es → s.entered? es = s.given? v := by
    intro s v hv
    rw [Setting.entered?, (Data.find?_eq_some hkeys).2 hv]
    rfl
  refine ⟨fun s v w hv hw => ?_, fun s hnone => ?_, fun s v hv hnull hnone => ⟨?_, ?_⟩, hwarnings⟩
  · rw [hget, hfound s v hv, hw]
    rfl
  · rw [hget]
    cases hfind : Data.find? s.name es with
    | none => rw [Setting.entered?, hfind]; rfl
    | some v =>
      have hv := (Data.find?_eq_some hkeys).1 hfind
      rw [hfound s v hv, hnone v hv]
      rfl
  · cases hconvert : s.kind.convert v with
    | error cause => exact absurd (convert_eq_error_iff.1 hconvert) (h _ hv cause)
    | ok value =>
      rw [Setting.converted?, hconvert] at hnone
      subst hnone
      exact kind_of_inconvertible hconvert
  · have hmem : .badNumber s.name v.display ∈ es.flatMap notes :=
      List.mem_flatMap.2 ⟨_, hv, badNumber_mem_notes hnull hnone⟩
    rw [← hwarnings] at hmem
    exact (List.mem_filter.1 hmem).1

end

/-- Loading a settings file fails if the file holds no mapping, or for the first of its entries that
cannot be passed over.  Otherwise the settings are those that the entries leave behind: what can be
converted is applied, and anything else is noted and keeps what was there. -/
theorem enterFile_outcome (c : Config) (d : Disk) (path : Path) :
    (∀ f, (c.enterFile d path).result = .error f ↔
      mapping d path = .error f ∨
        ∃ es cause, mapping d path = .ok es ∧ FirstAborts es cause ∧ f = .number cause) ∧
    ∀ es, mapping d path = .ok es → NoneAborts es →
      ∃ c', (c.enterFile d path).result = .ok c' ∧
        Applied es c c' (c.enterFile d path).events := by
  constructor
  · intro f
    rw [result_enterFile, bind_eq_error]
    refine or_congr_right (exists_congr fun es => ?_)
    rw [enterAll_eq_error_iff, exists_and_left]
  · intro es hes hnone
    obtain ⟨c', hok⟩ := enterAll_of_noneAborts hnone c
    have hresult : (c.enterFile d path).result = .ok c' := by
      rw [result_enterFile, hes]
      exact congrArg Noted.result hok
    exact ⟨c', hresult, applied_enterFile hes hnone hresult⟩

/-- Why a number is of no use, if loading fails for one. -/
def unusable? {α : Type} : Except SettingsFault α → Option UnusableNumber
  | .error (.number cause) => some cause
  | _ => none

/-- Loading ends with an infinity, whereas it passes over what is no number at all. -/
theorem not_loaded_infiniteIndent :
    let path : Path := { parts := ["cept.yaml"] }
    let infinite := LooseConfig.settingsDisk "indent: .inf\nstrict: true\n"
    let nan := LooseConfig.settingsDisk "indent: .nan\nstrict: true\n"
    (∃ es, mapping infinite path = .ok es ∧ FirstAborts es .infinite ∧
      (Config.default.enterFile infinite path).result = .error (.number .infinite)) ∧
    (Config.default.enterFile nan path).result.toOption =
      some { Config.default with strict := true } ∧
    (Config.default.enterFile nan path).events =
      [.badNumber "indent" "nan", .settingsFileLoaded "cept.yaml"] := by
  intro path infinite nan
  have hcause : unusable? (Config.default.enterFile infinite path).result = some .infinite := by
    decide +kernel
  have hmapping : (mapping infinite path).toOption.isSome = true := by
    decide +kernel
  obtain ⟨es, hes⟩ := Option.isSome_iff_exists.1 hmapping
  have hok := toOption_eq_some.1 hes
  have hresult : (Config.default.enterFile infinite path).result = .error (.number .infinite) := by
    unfold unusable? at hcause
    split at hcause
    next heq => cases hcause; exact heq
    next => cases hcause
  refine ⟨⟨es, hok, ?_, hresult⟩, by decide +kernel, by decide +kernel⟩
  obtain hnone | ⟨es', cause, hes', hfirst, hcause⟩ := (enterFile_outcome _ _ _).1 _ |>.1 hresult
  · rw [hok] at hnone
    cases hnone
  · rw [hok] at hes'
    cases hes'
    cases hcause
    exact hfirst

end Config

end CestExport
