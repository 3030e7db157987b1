import CestExport.Proofs.Data.Check
import CestExport.Proofs.Success
import CestExport.Recording.File

/-!
# Validating and loading

Both read a file in the same way.  Validating turns a failure of reading into
complaints if the text breaks a rule of its format, is empty, or holds data that is
no recording; then there is at least one complaint.  All other failures it passes
on: bytes that are no UTF-8, and values that the reader of the format cannot make.

    Reported (read d p)  ↔  the file can be judged                    (reported_read_iff)
    validate d p = .ok cs  →  (cs = [] ↔ the file is loaded)            (validate_decides)
-/

namespace CestExport.Recording

open CestExport.Text

/-! ## Algorithm -/

/-- The text of some bytes, with line feeds for all line breaks. -/
def contentText (content : Bytes) : Except Utf8.Error String :=
  (Utf8.decode content).map fun text => String.ofList (Utf8.unifyBreaks text.toList)

/-- A text that its reader either turns into data or finds to break a rule of the format. -/
def Judgeable (p : Path) (text : String) : Prop :=
  isBlankText text = true ∨
    if isYaml p = true then ∀ e, Yaml.read text = .error e → e.isSyntax = true
    else ∀ cause, Json.read text ≠ .error (.number cause)

/-- Bytes that write a text of that kind. -/
def JudgeableBytes (p : Path) (content : Bytes) : Prop :=
  ∃ text, contentText content = .ok text ∧ Judgeable p text

/-- A computation whose failures can all be complained about. -/
def Reported {α : Type} (x : Except LoadFault α) : Prop :=
  ∀ f, x = .error f → ∃ cs, complaints? f = some cs

/-! ## Complaints -/

/-- A fault of which complaints can be made gives at least one. -/
theorem ne_nil_of_complaints? {f : LoadFault} {cs : List Complaint}
    (h : complaints? f = some cs) (hfaults : ∀ faults, f = .invalid faults → faults ≠ []) :
    cs ≠ [] := by
  unfold complaints? at h
  split at h
  next => simp [← Option.some.inj h]
  next => simp [← Option.some.inj h]
  next faults =>
    rw [← Option.some.inj h]
    intro hnil
    exact hfaults faults rfl (List.map_eq_nil_iff.1 hnil)
  next =>
    obtain ⟨line, _, rfl⟩ := Option.map_eq_some_iff.1 h
    simp

theorem exists_complaints?_yaml {e : Yaml.Error} :
    (∃ cs, complaints? (.yaml e) = some cs) ↔ e.isSyntax = true := by
  cases e <;> simp [complaints?, LoadFault.syntaxLine?, Yaml.Error.isSyntax]

theorem exists_complaints?_json {text : String} {e : Json.Error} :
    (∃ cs, complaints? (jsonFault text e) = some cs) ↔ ∀ cause, e ≠ .number cause := by
  cases e <;> simp [complaints?, jsonFault, LoadFault.syntaxLine?]

/-! ## Reading -/

/-- A file that is found is read. -/
theorem read_of_find {d : Disk} {p : Path} {content : Bytes}
    (h : d.find p = .ok (some (.file content))) : d.read p = .ok content := by
  unfold Disk.find at h
  unfold Disk.read
  split at h
  next place hplace =>
    have hentry : d.entry? place = some (.file content) := Except.ok.inj h
    simp only [hplace, hentry]
  next => cases h
  next => cases h
  next => cases h

/-- The project in a file is made from its bytes. -/
theorem read_eq_bind {d : Disk} {p : Path} {content : Bytes}
    (h : d.find p = .ok (some (.file content))) :
    read d p = (contentText content).mapError .decoding >>= fun text =>
      textData p text >>= projectOf := by
  unfold read fileData fileText contentText
  simp only [h, read_of_find h, mapError_ok, bind, Except.bind]
  cases Utf8.decode content <;> rfl

theorem reported_projectOf (data : Data) : Reported (projectOf data) := by
  intro f h
  unfold projectOf at h
  split at h
  next =>
    cases h
    exact ⟨_, rfl⟩
  next =>
    split at h
    next => cases h
    next =>
      cases h
      exact ⟨_, rfl⟩

/-- Reading a text as data fails with a reported fault or not at all, if and only if the text can be
judged. -/
theorem reported_textData_iff {p : Path} {text : String} :
    Reported (textData p text) ↔ Judgeable p text := by
  unfold textData Judgeable
  by_cases hblank : isBlankText text = true
  · rw [if_pos hblank]
    constructor
    · intro _
      exact .inl hblank
    · intro _ f hf
      cases hf
  · rw [if_neg hblank, or_iff_right hblank]
    by_cases hyaml : isYaml p = true
    · rw [if_pos hyaml, if_pos hyaml]
      constructor
      · intro h e he
        have hreported := h (.yaml e) (mapError_eq_error.2 ⟨e, he, rfl⟩)
        exact exists_complaints?_yaml.1 hreported
      · intro h f hf
        obtain ⟨e, he, rfl⟩ := mapError_eq_error.1 hf
        exact exists_complaints?_yaml.2 (h e he)
    · rw [if_neg hyaml, if_neg hyaml]
      constructor
      · intro h cause hcause
        have hreported := h _ (mapError_eq_error.2 ⟨_, hcause, rfl⟩)
        exact exists_complaints?_json.1 hreported cause rfl
      · intro h f hf
        obtain ⟨e, he, rfl⟩ := mapError_eq_error.1 hf
        refine exists_complaints?_json.2 fun cause hcause => ?_
        rw [hcause] at he
        exact h cause he

/-- Every failure to read a file that is there can be complained about, if and only if its bytes can
be judged. -/
theorem reported_read_iff {d : Disk} {p : Path} {content : Bytes}
    (h : d.find p = .ok (some (.file content))) :
    Reported (read d p) ↔ JudgeableBytes p content := by
  rw [read_eq_bind h]
  cases htext : contentText content with
  | error e =>
    constructor
    · intro hreported
      obtain ⟨cs, hcs⟩ := hreported (.decoding e) rfl
      cases hcs
    · rintro ⟨text, hok, _⟩
      rw [htext] at hok
      cases hok
  | ok text =>
    have hbytes : JudgeableBytes p content ↔ Judgeable p text := by
      constructor
      · rintro ⟨text', hok, hjudgeable⟩
        rw [htext] at hok
        cases hok
        exact hjudgeable
      · intro hjudgeable
        exact ⟨text, htext, hjudgeable⟩
    rw [hbytes, ← reported_textData_iff]
    show Reported (textData p text >>= projectOf) ↔ _
    constructor
    · intro hreported f hf
      exact hreported f (bind_eq_error.2 (.inl hf))
    · intro hreported f hf
      rcases bind_eq_error.1 hf with hf | ⟨data, _, hf⟩
      · exact hreported f hf
      · exact reported_projectOf data f hf

/-- Only data is refused for its faults, and never without one. -/
theorem faults_ne_nil_of_read {d : Disk} {p : Path} {content : Bytes} {faults : List DataFault}
    (h : d.find p = .ok (some (.file content))) (hread : read d p = .error (.invalid faults)) :
    faults ≠ [] := by
  rw [read_eq_bind h] at hread
  rcases bind_eq_error.1 hread with hfails | ⟨text, _, hread⟩
  · obtain ⟨e, _, he⟩ := mapError_eq_error.1 hfails
    cases he
  · rcases bind_eq_error.1 hread with hfails | ⟨data, _, hproject⟩
    · unfold textData at hfails
      split at hfails
      next => cases hfails
      next =>
        split at hfails
        next =>
          obtain ⟨e, _, he⟩ := mapError_eq_error.1 hfails
          cases he
        next =>
          obtain ⟨e, _, he⟩ := mapError_eq_error.1 hfails
          cases e <;> cases he
    · unfold projectOf at hproject
      split at hproject
      next => cases hproject
      next =>
        split at hproject
        next => cases hproject
        next more hdata =>
          cases hproject
          exact Project.faults_ne_nil_ofData hdata

/-! ## Validating -/

/-- A list of complaints is empty because the file is read, or tells why it is not. -/
theorem validate_eq_ok {d : Disk} {p : Path} {cs : List Complaint} : validate d p = .ok cs ↔
    (∃ project, read d p = .ok project) ∧ cs = [] ∨
    ∃ f, read d p = .error f ∧ complaints? f = some cs := by
  constructor
  · intro h
    unfold validate at h
    split at h
    next project hread =>
      cases h
      exact .inl ⟨⟨project, hread⟩, rfl⟩
    next f hread =>
      split at h
      next hcs =>
        cases h
        exact .inr ⟨f, hread, hcs⟩
      next => cases h
  · rintro (⟨⟨project, hread⟩, rfl⟩ | ⟨f, hread, hcs⟩)
    · simp only [validate, hread]
    · simp only [validate, hread, hcs]

theorem validate_eq_error {d : Disk} {p : Path} {f : LoadFault} :
    validate d p = .error f ↔ read d p = .error f ∧ complaints? f = none := by
  constructor
  · intro h
    unfold validate at h
    split at h
    next => cases h
    next hread =>
      split at h
      next => cases h
      next hnone =>
        cases h
        exact ⟨hread, hnone⟩
  · rintro ⟨hread, hnone⟩
    simp only [validate, hread, hnone]

theorem exists_validate_eq_ok {d : Disk} {p : Path} :
    (∃ cs, validate d p = .ok cs) ↔ Reported (read d p) := by
  constructor
  · rintro ⟨cs, h⟩ f hf
    rcases validate_eq_ok.1 h with ⟨⟨project, hproject⟩, _⟩ | ⟨g, hg, hcs⟩
    · rw [hproject] at hf
      cases hf
    · rw [hg] at hf
      cases hf
      exact ⟨cs, hcs⟩
  · intro h
    cases hread : read d p with
    | ok project => exact ⟨[], validate_eq_ok.2 (.inl ⟨⟨project, hread⟩, rfl⟩)⟩
    | error f =>
      obtain ⟨cs, hcs⟩ := h f hread
      exact ⟨cs, validate_eq_ok.2 (.inr ⟨f, hread, hcs⟩)⟩

/-- There is nothing to complain about if and only if the file is read. -/
theorem eq_nil_iff_of_validate {d : Disk} {p : Path} {content : Bytes} {cs : List Complaint}
    (hfind : d.find p = .ok (some (.file content))) (h : validate d p = .ok cs) :
    cs = [] ↔ ∃ project, read d p = .ok project := by
  rcases validate_eq_ok.1 h with ⟨hread, rfl⟩ | ⟨f, hread, hcs⟩
  · exact ⟨fun _ => hread, fun _ => rfl⟩
  · have hne : cs ≠ [] := ne_nil_of_complaints? hcs fun faults hf =>
      faults_ne_nil_of_read hfind (hf ▸ hread)
    constructor
    · intro hnil
      exact absurd hnil hne
    · rintro ⟨project, hproject⟩
      rw [hread] at hproject
      cases hproject

/-- Loading a project is reading it. -/
theorem result_load (d : Disk) (p : Path) : (load d p).result = read d p := by
  unfold load
  cases read d p <;> rfl

/-- Validating a file that is there gives a list of complaints if and only if its bytes write a text
in which the reader of its format finds at most faults of the text; there is no complaint if and
only if the file can be loaded.  All other files fail in the same way as when they are loaded. -/
theorem validate_decides {d : Disk} {p : Path} {content : Bytes}
    (h : d.find p = .ok (some (.file content))) :
    ((∃ cs, validate d p = .ok cs) ↔ JudgeableBytes p content) ∧
    (∀ cs, validate d p = .ok cs → (cs = [] ↔ ∃ project, (load d p).result = .ok project)) ∧
    (∀ f, validate d p = .error f → (load d p).result = .error f) := by
  refine ⟨exists_validate_eq_ok.trans (reported_read_iff h), fun cs hcs => ?_, fun f hf => ?_⟩
  · rw [result_load]
    exact eq_nil_iff_of_validate h hcs
  · rw [result_load]
    exact (validate_eq_error.1 hf).1

/-- A recording without a name whose tests are no list. -/
def namelessDisk : Disk where
  files := [(["shop.side"], "\x7b\"tests\": 3\x7d".toUTF8.toList)]

theorem validate_decides_namelessDisk :
    let p : Path := { parts := ["shop.side"] }
    let cs : List Complaint :=
      [⟨"Field required", "name", none⟩, ⟨"Input should be a valid list", "tests", none⟩]
    (∃ content, namelessDisk.find p = .ok (some (.file content))) ∧
      validate namelessDisk p = .ok cs ∧
      ¬∃ project, (load namelessDisk p).result = .ok project := by
  intro p cs
  have hfind : namelessDisk.find p = .ok (some (.file "\x7b\"tests\": 3\x7d".toUTF8.toList)) := rfl
  have hvalidate : validate namelessDisk p = .ok cs := toOption_eq_some.1 (by decide +kernel)
  obtain ⟨_, hempty, _⟩ := validate_decides hfind
  refine ⟨⟨_, hfind⟩, hvalidate, fun hload => ?_⟩
  have hnil : cs = [] := (hempty cs hvalidate).2 hload
  exact absurd hnil (by simp [cs])

/-- Bytes that are no UTF-8, and a day that no calendar has: validating fails instead of
complaining. -/
theorem validate_fails_undecodable :
    let disk : Disk := { files := [
      (["shop.side"], [0xff]), (["shop.yaml"], "id: 2001-99-99\n".toUTF8.toList)] }
    let p : Path := { parts := ["shop.side"] }
    let q : Path := { parts := ["shop.yaml"] }
    (∃ content, disk.find p = .ok (some (.file content))) ∧ (¬∃ cs, validate disk p = .ok cs) ∧
      (∃ content, disk.find q = .ok (some (.file content))) ∧ ¬∃ cs, validate disk q = .ok cs := by
  intro disk p q
  have hfails : ∀ {x : Except LoadFault (List Complaint)}, x.toOption = none →
      ¬∃ cs, x = .ok cs := by
    rintro x hx ⟨cs, rfl⟩
    cases hx
  exact ⟨⟨[0xff], rfl⟩, hfails (by decide +kernel), ⟨_, rfl⟩, hfails (by decide +kernel)⟩

end CestExport.Recording
