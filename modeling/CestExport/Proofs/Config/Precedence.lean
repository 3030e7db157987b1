import CestExport.Config.Resolve
import CestExport.Proofs.Yaml.Keys

/-!
# Which source a setting comes from

Settings are made in steps, each of which changes what the one before has left.
Field by field this comes to an order of precedence: an override, else the value
in the file, else the environment variable, else the default.  A value that cannot
be converted, and null, count as if they were not there.

    resolve … = .ok c  →  c.get s is the override of s, or else the first of file,
      environment and default that gives it a value              (resolve_precedence)
-/

namespace CestExport

open Data (textKeys)

/-! ## Algorithm -/

/-- A value of a setting as data. -/
def SettingKind.datum : (k : SettingKind) → k.Value → Data
  | .text, v => .text v
  | .number, v => .whole v
  | .truth, v => .bool v

namespace Setting

/-- The value of a setting that data gives, if it can be converted. -/
def converted? (s : Setting) (d : Data) : Option s.kind.Value :=
  match s.kind.convert d with
  | .ok v => v
  | .error _ => none

/-- The value of a setting that the environment gives. -/
def environmental? (environment : List (String × String)) (s : Setting) : Option s.kind.Value :=
  (s.environmentName?.bind fun name => environment.lookup name).bind fun value =>
    s.converted? (.text value)

/-- The value of a setting that an entry of a file gives; null gives none. -/
def given? (s : Setting) : Data → Option s.kind.Value
  | .null => none
  | d => s.converted? d

/-- The value of a setting that the entries of a file give. -/
def entered? (es : List (Data × Data)) (s : Setting) : Option s.kind.Value :=
  (Data.find? s.name es).bind s.given?

/-- The value that overrides a setting; null overrides nothing. -/
def overriding? (overrides : List (String × Data)) (s : Setting) : Option Data :=
  match overrides.lookup s.name with
  | none | some .null => none
  | some d => some d

/-- The value of a setting by the order of precedence. -/
def resolved (environment : List (String × String)) (es : List (Data × Data))
    (overrides : List (String × Data)) (s : Setting) : Data :=
  (s.overriding? overrides).getD <| s.kind.datum <|
    ((s.entered? es).or (s.environmental? environment)).getD (Config.default.get s)

end Setting

namespace Config

/-- The entries of data that was read from a settings file; null has none. -/
def dataEntries (path : Path) : Data → Except SettingsFault (List (Data × Data))
  | .null => .ok []
  | d =>
    match d.entries? with
    | some es => .ok es
    | none => .error (.notTable path)

/-- The entries of the settings file that is read, or none if there is no file. -/
def fileEntries (d : Disk) (path : Option Path) : Except SettingsFault (List (Data × Data)) := do
  match ← settingsFile? d path with
  | none => .ok []
  | some p => dataEntries p (← fileData d p)

/-- The entries that are those of settings. -/
def knownEntries (es : List (Data × Data)) : List (Data × Data) :=
  es.filter fun e => (Setting.ofKey? e.1).isSome

end Config

/-! ## Settings -/

theorem Noted.result_andThen {ε α β : Type} (x : Noted ε α) (f : α → Noted ε β) :
    (x.andThen f).result = x.result >>= fun a => (f a).result := by
  unfold andThen
  cases x.result <;> rfl

namespace Setting

theorem mem_all (s : Setting) : s ∈ all := by
  cases s <;> decide

theorem ofName?_eq_some {name : String} {s : Setting} : ofName? name = some s ↔ s.name = name := by
  constructor
  · intro h
    simpa using List.find?_some h
  · rintro rfl
    exact ofName?_name s

theorem ofKey?_eq_some {key : Data} {s : Setting} : ofKey? key = some s ↔ key = .text s.name := by
  cases key with
  | text name =>
    rw [ofKey?, ofName?_eq_some, Data.text.injEq]
    exact eq_comm
  | _ => simp [ofKey?]

theorem given?_of_ne_null (s : Setting) {d : Data} (h : d ≠ .null) :
    s.given? d = s.converted? d := by
  cases d with
  | null => exact absurd rfl h
  | _ => rfl

theorem name_inj {s t : Setting} (h : s.name = t.name) : s = t := by
  have hs := ofName?_name s
  rw [h, ofName?_name] at hs
  exact (Option.some.inj hs).symm

end Setting

theorem Config.ext_get {c c' : Config} (h : ∀ s, c.get s = c'.get s) : c = c' := by
  cases c
  cases c'
  rw [Fields.mk.injEq]
  exact ⟨h .baseUrl, h .indent, h .space, h .testerClass, h .classSuffix, h .waitForTextTimeout,
    h .waitTimeout, h .strict⟩

theorem LooseConfig.get_loosen (c : Config) (s : Setting) :
    LooseConfig.get c.loosen s = s.kind.datum (c.get s) := by
  cases s <;> rfl

/-! ## The environment -/

namespace Config

open Setting (converted? environmental? entered?)

theorem get_enterVariable_self (c : Config) (s : Setting) (value : String) :
    (c.enterVariable s value).1.get s = (s.converted? (.text value)).getD (c.get s) := by
  unfold enterVariable converted?
  cases s.kind.convert (.text value) with
  | error e => rfl
  | ok v =>
    cases v with
    | none => rfl
    | some v => exact get_set_self c s v

theorem get_enterVariable_of_ne (c : Config) {s t : Setting} (h : t ≠ s) (value : String) :
    (c.enterVariable s value).1.get t = c.get t := by
  unfold enterVariable
  split
  next v _ => exact get_set_of_ne c v h
  next => rfl

theorem get_enterVariables (environment : List (String × String)) {ss : List Setting}
    (h : ss.Nodup) (c : Config) (t : Setting) : (enterVariables environment ss c).1.get t =
      if t ∈ ss then (t.environmental? environment).getD (c.get t) else c.get t := by
  induction ss generalizing c with
  | nil => rfl
  | cons s rest ih =>
    obtain ⟨hs, hrest⟩ := List.nodup_cons.1 h
    rw [enterVariables]
    by_cases hts : t = s
    · subst hts
      rw [if_pos List.mem_cons_self]
      cases hvalue : t.environmentName?.bind fun name => environment.lookup name with
      | none =>
        rw [ih hrest, if_neg hs]
        simp [environmental?, hvalue]
      | some value =>
        simp only [ih hrest, if_neg hs, get_enterVariable_self]
        simp [environmental?, hvalue]
    · have hmem : t ∈ s :: rest ↔ t ∈ rest := by simp [hts]
      rw [ite_cond_congr (propext hmem)]
      cases s.environmentName?.bind fun name => environment.lookup name with
      | none => exact ih hrest c
      | some value => simp only [ih hrest, get_enterVariable_of_ne c hts]

theorem get_ofEnvironment (environment : List (String × String)) (s : Setting) :
    (ofEnvironment environment).1.get s =
      (s.environmental? environment).getD (Config.default.get s) := by
  have hall : Setting.all.Nodup := by decide
  rw [ofEnvironment, get_enterVariables environment hall, if_pos s.mem_all]

/-! ## The file -/

/-- Entering an entry of a setting changes this setting alone, and only by a value that is not null
and can be converted. -/
theorem get_enter {c c' : Config} {s : Setting} {d : Data}
    (h : (c.enter (.text s.name) d).result = .ok c') :
    c'.get s = (s.given? d).getD (c.get s) ∧ ∀ t, t ≠ s → c'.get t = c.get t := by
  simp only [enter, Setting.ofKey?_eq_some.2 rfl] at h
  split at h
  next =>
    cases h
    exact ⟨rfl, fun _ _ => rfl⟩
  next hnull =>
    rw [Setting.given?_of_ne_null s hnull, converted?]
    split at h
    next => cases h
    next hnone =>
      cases h
      rw [hnone]
      exact ⟨rfl, fun _ _ => rfl⟩
    next v hv =>
      cases h
      rw [hv]
      exact ⟨get_set_self c s v, fun t ht => get_set_of_ne c v ht⟩

theorem enter_of_unknown {key : Data} (h : Setting.ofKey? key = none) (c : Config) (d : Data) :
    (c.enter key d).result = .ok c := by
  rw [enter, h]

/-- Of entries with different keys each setting takes its own, if there is one. -/
theorem get_enterAll {es : List (Data × Data)} (hkeys : (textKeys es).Nodup) {c c' : Config}
    (h : (enterAll es c).result = .ok c') (s : Setting) :
    c'.get s = (s.entered? es).getD (c.get s) := by
  induction es generalizing c with
  | nil =>
    cases h
    rfl
  | cons e es ih =>
    obtain ⟨key, d⟩ := e
    rw [enterAll, Noted.result_andThen] at h
    obtain ⟨c₁, henter, h⟩ := bind_eq_ok.1 h
    rw [ih (Data.nodup_textKeys_of_cons hkeys) h]
    -- no later entry has the key of this one, so what it enters is not entered over
    by_cases hkey : key = .text s.name
    · subst hkey
      have habsent : s.name ∉ textKeys es := (List.nodup_cons.1 hkeys).1
      rw [(get_enter henter).1, entered?, entered?, Data.find?_eq_none habsent, Data.find?,
        if_pos rfl]
      rfl
    · have hsame : c₁.get s = c.get s := by
        cases hof : Setting.ofKey? key with
        | none =>
          rw [enter_of_unknown hof] at henter
          cases henter
          rfl
        | some t =>
          obtain rfl := Setting.ofKey?_eq_some.1 hof
          exact (get_enter henter).2 s fun hst => hkey (by rw [hst])
      rw [hsame, entered?, entered?, Data.find?_cons_of_ne hkey]

/-- An entry that is no error: an unknown key, or null, or a value that is no error to convert. -/
def Enterable (e : Data × Data) : Prop :=
  ∀ s : Setting, e.1 = .text s.name → e.2 ≠ .null → ∃ v, s.kind.convert e.2 = .ok v

theorem exists_enter_eq_ok {c : Config} {key d : Data} :
    (∃ c', (c.enter key d).result = .ok c') ↔ Enterable (key, d) := by
  cases hof : Setting.ofKey? key with
  | none =>
    refine iff_of_true ⟨c, enter_of_unknown hof c d⟩ fun s hs => ?_
    rw [Setting.ofKey?_eq_some.2 hs] at hof
    cases hof
  | some s =>
    obtain rfl := Setting.ofKey?_eq_some.1 hof
    have hiff : Enterable (.text s.name, d) ↔ (d ≠ .null → ∃ v, s.kind.convert d = .ok v) := by
      refine ⟨fun h => h s rfl, fun h t ht => ?_⟩
      obtain rfl := Setting.name_inj (Data.text.inj ht)
      exact h
    rw [hiff]
    simp only [enter, hof]
    split
    next => simp
    next hnull =>
      split
      next e he => simpa [he] using hnull
      next hv => simp [hv]
      next v hv => simp [hv]

theorem exists_enterAll_eq_ok {es : List (Data × Data)} {c : Config} :
    (∃ c', (enterAll es c).result = .ok c') ↔ ∀ e ∈ es, Enterable e := by
  induction es generalizing c with
  | nil => simp [enterAll]
  | cons e es ih =>
    rw [enterAll, Noted.result_andThen, List.forall_mem_cons, ← exists_enter_eq_ok (c := c)]
    constructor
    · rintro ⟨c', h⟩
      obtain ⟨c₁, henter, h⟩ := bind_eq_ok.1 h
      exact ⟨⟨c₁, henter⟩, ih.1 ⟨c', h⟩⟩
    · rintro ⟨⟨c₁, henter⟩, hes⟩
      obtain ⟨c', h⟩ := (ih (c := c₁)).2 hes
      exact ⟨c', bind_eq_ok.2 ⟨c₁, henter, h⟩⟩

end Config

/-! ## Overrides -/

namespace Setting

theorem overriding?_of_not_mem {os : List (String × Data)} {s : Setting}
    (h : s.name ∉ os.map (·.1)) : s.overriding? os = none := by
  have hlookup : os.lookup s.name = none := by
    rw [List.lookup_eq_none_iff]
    intro o ho
    refine bne_iff_ne.2 fun hname => h ?_
    exact List.mem_map.2 ⟨o, ho, hname.symm⟩
  rw [overriding?, hlookup]

theorem overriding?_cons_of_ne {name : String} {s : Setting} (h : s.name ≠ name) (d : Data)
    (os : List (String × Data)) : s.overriding? ((name, d) :: os) = s.overriding? os := by
  rw [overriding?, overriding?, List.lookup_cons, beq_false_of_ne h]

theorem overriding?_cons_self (s : Setting) {d : Data} (h : d ≠ .null)
    (os : List (String × Data)) : s.overriding? ((s.name, d) :: os) = some d := by
  rw [overriding?, List.lookup_cons, beq_self_eq_true]
  cases d with
  | null => exact absurd rfl h
  | _ => rfl

theorem overriding?_cons_null (s : Setting) (os : List (String × Data)) :
    s.overriding? ((s.name, .null) :: os) = none := by
  rw [overriding?, List.lookup_cons, beq_self_eq_true]

end Setting

namespace LooseConfig

/-- Of overrides with different names each setting takes its own, if there is one. -/
theorem get_override {os : List (String × Data)} (hnames : (os.map (·.1)).Nodup)
    {c c' : LooseConfig} (h : override os c = .ok c') (s : Setting) :
    c'.get s = (s.overriding? os).getD (c.get s) := by
  fun_induction override os c with
  | case1 c =>
    cases h
    rfl
  | case2 name os c ih =>
    obtain ⟨hname, hrest⟩ := List.nodup_cons.1 hnames
    rw [ih hrest h]
    by_cases hs : s.name = name
    · subst hs
      rw [Setting.overriding?_cons_null, Setting.overriding?_of_not_mem hname]
    · rw [Setting.overriding?_cons_of_ne hs]
  | case3 name v os c hnull t hname ih =>
    obtain ⟨hfresh, hrest⟩ := List.nodup_cons.1 hnames
    obtain rfl := Setting.ofName?_eq_some.1 hname
    rw [ih hrest h, get_set]
    by_cases hs : s = t
    · subst hs
      rw [Setting.overriding?_cons_self s hnull, Setting.overriding?_of_not_mem hfresh, if_pos rfl]
      rfl
    · rw [Setting.overriding?_cons_of_ne fun h => hs (Setting.name_inj h), if_neg hs]
  | case4 => cases h

end LooseConfig

/-! ## All sources -/

namespace Config

theorem dataEntries_of_ne_null {d : Data} (h : d ≠ .null) (path : Path) : dataEntries path d =
    match d.entries? with
    | some es => .ok es
    | none => .error (.notTable path) := by
  cases d with
  | null => exact absurd rfl h
  | _ => rfl

theorem result_enterData (c : Config) (path : Path) (d : Data) :
    (c.enterData path d).result = dataEntries path d >>= fun es => (enterAll es c).result := by
  unfold enterData
  split
  next => rfl
  next hnull =>
    rw [dataEntries_of_ne_null hnull]
    cases d.entries? with
    | none => rfl
    | some es =>
      simp only [Noted.result_andThen]
      cases h : (enterAll es c).result <;> exact h.symm

/-- The settings that are loaded are those of the environment with the entries of the file. -/
theorem result_load (environment : List (String × String)) (d : Disk) (path : Option Path) :
    (load environment d path).result =
      fileEntries d path >>= fun es => (enterAll es (ofEnvironment environment).1).result := by
  rw [load, Noted.result_andThen, fileEntries]
  cases settingsFile? d path with
  | error e => rfl
  | ok file =>
    cases file with
    | none => rfl
    | some p =>
      show (enterFile _ d p).result = (fileData d p >>= dataEntries p) >>= _
      rw [enterFile, Noted.result_andThen]
      cases fileData d p with
      | error e => rfl
      | ok data => exact result_enterData _ p data

theorem nodup_textKeys_dataEntries {d : Disk} {path : Path} {data : Data}
    (h : fileData d path = .ok data) {es : List (Data × Data)}
    (hes : dataEntries path data = .ok es) : (textKeys es).Nodup := by
  obtain ⟨found, _, h⟩ := bind_eq_ok.1 h
  cases found with
  | none => cases h
  | some _ =>
    obtain ⟨bytes, _, h⟩ := bind_eq_ok.1 h
    obtain ⟨text, _, h⟩ := bind_eq_ok.1 h
    have hread := mapError_eq_ok.1 h
    by_cases hnull : data = .null
    · subst hnull
      cases hes
      exact List.nodup_nil
    · rw [dataEntries_of_ne_null hnull] at hes
      split at hes
      next hentries =>
        cases hes
        exact Yaml.nodup_textKeys_read hread hentries
      next => cases hes

/-- The entries of a settings file have different text keys. -/
theorem nodup_textKeys_fileEntries {d : Disk} {path : Option Path} {es : List (Data × Data)}
    (h : fileEntries d path = .ok es) : (textKeys es).Nodup := by
  obtain ⟨file, _, h⟩ := bind_eq_ok.1 h
  cases file with
  | none =>
    cases h
    exact List.nodup_nil
  | some p =>
    obtain ⟨data, hdata, h⟩ := bind_eq_ok.1 h
    exact nodup_textKeys_dataEntries hdata h

/-! ## Unknown keys and the order of keys -/

theorem mem_knownEntries {es : List (Data × Data)} {s : Setting} {d : Data} :
    (.text s.name, d) ∈ knownEntries es ↔ (.text s.name, d) ∈ es := by
  have hkey : Setting.ofKey? (.text s.name) = some s := Setting.ofKey?_eq_some.2 rfl
  simp [knownEntries, hkey]

section

variable {es es' : List (Data × Data)} (hperm : (knownEntries es').Perm (knownEntries es))

include hperm

theorem mem_of_perm {s : Setting} {d : Data} :
    (.text s.name, d) ∈ es' ↔ (.text s.name, d) ∈ es := by
  rw [← mem_knownEntries, hperm.mem_iff, mem_knownEntries]

theorem entered?_of_perm (h : (textKeys es).Nodup) (h' : (textKeys es').Nodup) (s : Setting) :
    s.entered? es' = s.entered? es := by
  have hfind : Data.find? s.name es' = Data.find? s.name es := by
    refine Option.ext fun d => ?_
    rw [Data.find?_eq_some h', Data.find?_eq_some h, mem_of_perm hperm]
  rw [Setting.entered?, Setting.entered?, hfind]

theorem enterable_of_perm (h : ∀ e ∈ es, Enterable e) : ∀ e ∈ es', Enterable e := by
  rintro ⟨key, d⟩ he s rfl hnull
  exact h _ ((mem_of_perm hperm).1 he) s rfl hnull

/-- Entries that differ in unknown keys and in their order give the same settings. -/
theorem enterAll_of_perm (h : (textKeys es).Nodup) (h' : (textKeys es').Nodup) {c c' : Config}
    (hc : (enterAll es c).result = .ok c') : (enterAll es' c).result = .ok c' := by
  have henterable := enterable_of_perm hperm (exists_enterAll_eq_ok.1 ⟨c', hc⟩)
  obtain ⟨c'', hc''⟩ := (exists_enterAll_eq_ok (c := c)).2 henterable
  have hsame : c'' = c' := ext_get fun s => by
    rw [get_enterAll h' hc'', get_enterAll h hc, entered?_of_perm hperm h h']
  rw [hc'', hsame]

end

end Config

namespace LooseConfig

open Config (fileEntries enterAll knownEntries)

theorem resolve_eq_ok {environment : List (String × String)} {d : Disk} {path : Option Path}
    {overrides : List (String × Data)} {c : LooseConfig} :
    (resolve environment d path overrides).result = .ok c ↔ ∃ es c₁,
      fileEntries d path = .ok es ∧
      (enterAll es (Config.ofEnvironment environment).1).result = .ok c₁ ∧
      override overrides c₁.loosen = .ok c := by
  have hoverride : ∀ c₁ : Config, ((Noted.quiet (override overrides c₁.loosen)).andThen fun c =>
      ⟨.ok c, [.settingsResolved c.display]⟩).result = override overrides c₁.loosen := by
    intro c₁
    rw [Noted.result_andThen, Noted.quiet]
    cases override overrides c₁.loosen <;> rfl
  simp only [resolve, Noted.result_andThen (Config.load environment d path), hoverride,
    Config.result_load, bind_eq_ok]
  constructor
  · rintro ⟨c₁, ⟨es, hes, hc₁⟩, hc⟩
    exact ⟨es, c₁, hes, hc₁, hc⟩
  · rintro ⟨es, c₁, hes, hc₁, hc⟩
    exact ⟨c₁, ⟨es, hes, hc₁⟩, hc⟩

/-- Settings are resolved by precedence, field by field.  Whenever the settings of an environment, a
file and overrides with different names can be had, each of them is what overrides it, if that is
not null; else what the file gives under its name, if that is not null and can be converted; else
what its environment variable gives, if it has one that is set and can be converted; else its
default.  And every file whose entries under names of settings are the same, in whatever order and
among whatever other keys, gives the same settings. -/
theorem resolve_precedence {environment : List (String × String)} {d : Disk}
    {path : Option Path} {overrides : List (String × Data)} {c : LooseConfig}
    (hnames : (overrides.map (·.1)).Nodup)
    (h : (resolve environment d path overrides).result = .ok c) :
    ∃ es, fileEntries d path = .ok es ∧
      (∀ s, c.get s = Setting.resolved environment es overrides s) ∧
      ∀ d' path' es', fileEntries d' path' = .ok es' →
        (knownEntries es').Perm (knownEntries es) →
        (resolve environment d' path' overrides).result = .ok c := by
  obtain ⟨es, c₁, hes, hc₁, hc⟩ := resolve_eq_ok.1 h
  have hkeys := Config.nodup_textKeys_fileEntries hes
  refine ⟨es, hes, fun s => ?_, fun d' path' es' hes' hperm => ?_⟩
  · rw [get_override hnames hc, get_loosen, Config.get_enterAll hkeys hc₁,
      Config.get_ofEnvironment, Setting.resolved]
    cases s.entered? es <;> rfl
  · have hc₁' := Config.enterAll_of_perm hperm hkeys (Config.nodup_textKeys_fileEntries hes') hc₁
    exact resolve_eq_ok.2 ⟨es', c₁, hes', hc₁', hc⟩

/-- A working directory with a settings file. -/
def settingsDisk (text : String) : Disk where
  files := [(["cept.yaml"], text.toUTF8.toList)]

/-- Key and value of an entry, if both are texts. -/
def textEntry? : Data × Data → Option (String × String)
  | (.text key, .text value) => some (key, value)
  | _ => none

/-- Entries whose keys and values are texts. -/
def textEntries (ps : List (String × String)) : List (Data × Data) :=
  ps.map fun p => (.text p.1, .text p.2)

theorem eq_of_textEntry? {es : List (Data × Data)} {ps : List (String × String)}
    (h : es.map textEntry? = ps.map some) : es = textEntries ps := by
  induction es generalizing ps with
  | nil =>
    cases ps with
    | nil => rfl
    | cons p ps => cases h
  | cons e es ih =>
    cases ps with
    | nil => cases h
    | cons p ps =>
      obtain ⟨he, hes⟩ := List.cons.inj h
      rw [ih hes, textEntries, textEntries, List.map_cons]
      congr 1
      unfold textEntry? at he
      split at he
      next => cases he; rfl
      next => cases he

/-- An indentation in the file and in the environment, a waiting time that is no number, and a
truth value that is overridden; the other file has the same entries in another order, and an
unknown one. -/
theorem resolve_precedence_mixedFile :
    let environment := [("CEPT_INDENT", "8"), ("CEPT_BASE_URL", "http://e")]
    let overrides := [("strict", .bool false), ("indent", .null)]
    let ordered := settingsDisk "indent: '2'\nwait_timeout: soon\nstrict: yes\n"
    let mixed := settingsDisk "strict: yes\nextra: x\nwait_timeout: soon\nindent: '2'\n"
    (overrides.map (·.1)).Nodup ∧
    ∃ c, (resolve environment ordered none overrides).result = .ok c ∧
      (resolve environment mixed none overrides).result = .ok c ∧
      c.get .baseUrl = .text "http://e" ∧ c.get .indent = .whole 2 ∧
      c.get .waitTimeout = .whole 30 ∧ c.get .strict = .bool false := by
  intro environment overrides ordered mixed
  have hnames : (overrides.map (·.1)).Nodup := by decide
  let first := [("indent", "2"), ("wait_timeout", "soon"), ("strict", "yes")]
  let second := [("strict", "yes"), ("extra", "x"), ("wait_timeout", "soon"), ("indent", "2")]
  have hread : ∀ (disk : Disk) (ps : List (String × String)),
      (fileEntries disk none).toOption.map (·.map textEntry?) = some (ps.map some) →
      fileEntries disk none = .ok (textEntries ps) := by
    intro disk ps h
    obtain ⟨es, hes, hps⟩ := Option.map_eq_some_iff.1 h
    rw [toOption_eq_some.1 hes, eq_of_textEntry? hps]
  have hordered := hread ordered first (by decide +kernel)
  have hmixed := hread mixed second (by decide +kernel)
  have hreversed :
      knownEntries (textEntries second) = (knownEntries (textEntries first)).reverse := rfl
  have hsome : (resolve environment ordered none overrides).result.toOption.isSome = true := by
    decide +kernel
  obtain ⟨c, hc⟩ := Option.isSome_iff_exists.1 hsome
  have hresolve := toOption_eq_some.1 hc
  obtain ⟨es, hes, hfields, hothers⟩ := resolve_precedence hnames hresolve
  rw [hordered] at hes
  cases hes
  refine ⟨hnames, c, hresolve, hothers mixed none _ hmixed ?_, ?_, ?_, ?_, ?_⟩
  · rw [hreversed]
    exact List.reverse_perm _
  · rw [hfields]
    rfl
  · rw [hfields]
    rfl
  · rw [hfields]
    rfl
  · rw [hfields]
    rfl

end LooseConfig

end CestExport
