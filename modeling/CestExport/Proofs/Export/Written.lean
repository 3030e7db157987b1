import CestExport.Export.Written
import CestExport.Proofs.Success

/-!
# What a failed write leaves behind

Making directories and finding the place of a file changes no file.  Once the file
is open it is empty, and the text is only made then; so a failure leaves all files
as they were, unless the text cannot be made for a file that was open already.

    (openFile d directory file).2 has an empty file at the place that is opened,
      and all other files of d                                          (lookup_openFile)
    every failure leaves all files as they were  ↔  whatever is opened can be rendered,
      or was empty before                                               (allOrNothing_iff)
-/

namespace CestExport

/-! ## Algorithm -/

/-- A number of spaces that a text can be indented by. -/
def Layout.IsWidth (n : Int) : Prop :=
  -Number.wordBound ≤ n ∧ n < Number.wordBound

instance (n : Int) : Decidable (Layout.IsWidth n) :=
  inferInstanceAs (Decidable (_ ∧ _))

/-- A class whose members and helper methods can be indented. -/
structure Export.Indentable (config : Config) (p : ExportedProject) : Prop where
  members : Layout.IsWidth config.indent
  helpers : ∀ m ∈ p.helpers, ∀ l ∈ m.lines, Layout.IsWidth (config.indent * l.level)

/-- Writing a class that changes no file if it fails. -/
def Export.AllOrNothing (config : Config) (d : Disk) (p : ExportedProject) (directory : Path) :
    Prop :=
  ∀ fault, (write config d p directory).result = .error fault →
    ∀ place, (write config d p directory).disk.files.lookup place = d.files.lookup place

/-! ## Directories -/

namespace Disk

theorem files_makeDirectory {d d' : Disk} {p : Path} (h : d.makeDirectory p = .ok d') :
    d'.files = d.files := by
  unfold makeDirectory at h
  split at h
  next => cases h
  next =>
    split at h
    next => cases h
    next =>
      cases h
      rfl

theorem files_ensureDirectory {d d' : Disk} {p : Path} (h : d.ensureDirectory p = .ok d') :
    d'.files = d.files := by
  unfold ensureDirectory at h
  split at h
  next d'' hmade =>
    cases h
    exact files_makeDirectory hmade
  next =>
    split at h
    next =>
      cases h
      rfl
    next => cases h

/-- Making directories changes no file, whether it succeeds or not. -/
theorem files_ensureDirectories (d : Disk) (p : Path) :
    (d.ensureDirectories p).2.files = d.files := by
  fun_induction ensureDirectories d p with
  | case1 p d' hmade => exact files_makeDirectory hmade
  | case2 p e _ _ e' d' houter ih =>
    rw [houter] at ih
    exact ih
  | case3 p e _ _ _ d' houter d'' hensured ih =>
    rw [houter] at ih
    exact (files_ensureDirectory hensured).trans ih
  | case4 p e _ _ _ d' houter e' _ ih =>
    rw [houter] at ih
    exact ih
  | case5 => rfl
  | case6 => rfl

end Disk

/-! ## Rendering -/

theorem Layout.exists_spaces_eq_ok {n : Int} : (∃ s, spaces n = .ok s) ↔ IsWidth n := by
  unfold spaces
  split
  next h => exact ⟨fun _ => h, fun _ => ⟨_, rfl⟩⟩
  next h =>
    refine ⟨?_, fun hwidth => absurd hwidth h⟩
    rintro ⟨s, hs⟩
    cases hs

theorem Layout.exists_indent_eq_ok {width : Int} {ls : List Line} :
    (∃ texts, indent width ls = .ok texts) ↔ ∀ l ∈ ls, IsWidth (width * l.level) := by
  rw [indent, exists_mapM_eq_ok]
  refine forall₂_congr fun l _ => ?_
  rw [← exists_spaces_eq_ok]
  exact exists_map_eq_ok

namespace Export

/-- The text of a class can be made if and only if the class can be indented. -/
theorem exists_render_eq_ok {config : Config} {p : ExportedProject} :
    (∃ text, render config p = .ok text) ↔ Indentable config p := by
  have hbodies : (∃ bodies, helperBodies config p.helpers = .ok bodies) ↔
      ∀ m ∈ p.helpers, ∀ l ∈ m.lines, Layout.IsWidth (config.indent * l.level) := by
    rw [helperBodies, exists_mapM_eq_ok]
    refine forall₂_congr fun m _ => ?_
    rw [← Layout.exists_indent_eq_ok]
    exact exists_map_eq_ok
  constructor
  · rintro ⟨text, h⟩
    obtain ⟨bodies, hhelpers, h⟩ := bind_eq_ok.1 h
    obtain ⟨unit, hunit, _⟩ := bind_eq_ok.1 h
    exact ⟨Layout.exists_spaces_eq_ok.1 ⟨unit, hunit⟩, hbodies.1 ⟨bodies, hhelpers⟩⟩
  · rintro ⟨hmembers, hhelpers⟩
    obtain ⟨bodies, hhelpers⟩ := hbodies.2 hhelpers
    obtain ⟨unit, hunit⟩ := Layout.exists_spaces_eq_ok.2 hmembers
    exact ⟨_, bind_eq_ok.2 ⟨bodies, hhelpers, bind_eq_ok.2 ⟨unit, hunit, rfl⟩⟩⟩

/-! ## Opening -/

/-- All that opening can do to the files: nothing if it fails, and otherwise it empties the file at
the place that is opened. -/
theorem lookup_openFile (d : Disk) (directory file : Path) (q : List String) :
    (openFile d directory file).2.files.lookup q =
      match (openFile d directory file).1 with
      | .ok place => if q = place then some [] else d.files.lookup q
      | .error _ => d.files.lookup q := by
  have hfiles := d.files_ensureDirectories directory
  unfold openFile
  split
  next e made hmade =>
    simp only [hmade] at hfiles ⊢
    rw [hfiles]
  next made hmade =>
    simp only [hmade] at hfiles
    split
    next => simp only [hfiles]
    next place _ => simp only [Disk.lookup_putFile, hfiles]

/-! ## Writing -/

/-- All that writing can come to: the file cannot be opened, the open file stays empty because the
text cannot be made, or the file holds the text. -/
theorem write_cases (config : Config) (d : Disk) (p : ExportedProject) (directory : Path) :
    let opened := openFile d directory (classFile directory p)
    (∃ e, opened.1 = .error e ∧ (write config d p directory).result = .error (.disk e) ∧
      (write config d p directory).disk = opened.2) ∨
    (∃ place e, opened.1 = .ok place ∧ render config p = .error e ∧
      (write config d p directory).result = .error (.indent e) ∧
      (write config d p directory).disk = opened.2) ∨
    (∃ place text, opened.1 = .ok place ∧ render config p = .ok text ∧
      (write config d p directory).result = .ok (classFile directory p)) := by
  intro opened
  unfold write
  simp only
  split
  next e made hopened =>
    have heq : opened = (.error e, made) := hopened
    exact .inl ⟨e, by rw [heq], rfl, by rw [heq]⟩
  next place made hopened =>
    have heq : opened = (.ok place, made) := hopened
    right
    split
    next e hrender => exact .inl ⟨place, e, by rw [heq], hrender, rfl, by rw [heq]⟩
    next text hrender => exact .inr ⟨place, text, by rw [heq], hrender, rfl⟩

/-- A file that is opened is empty from then on, if the text cannot be made. -/
theorem write_of_not_indentable {config : Config} {d : Disk} {p : ExportedProject}
    {directory : Path} {place : List String}
    (hopened : (openFile d directory (classFile directory p)).1 = .ok place)
    (hindent : ¬Indentable config p) :
    (∃ fault, (write config d p directory).result = .error fault) ∧
      ∀ q, (write config d p directory).disk.files.lookup q =
        if q = place then some [] else d.files.lookup q := by
  rcases write_cases config d p directory with ⟨e, hfails, _, _⟩ | ⟨_, e, _, _, hresult, hdisk⟩ |
    ⟨_, text, _, hrender, _⟩
  · rw [hopened] at hfails
    cases hfails
  · refine ⟨⟨_, hresult⟩, fun q => ?_⟩
    rw [hdisk, lookup_openFile, hopened]
  · exact absurd (exists_render_eq_ok.1 ⟨text, hrender⟩) hindent

/-- Writing a class changes no file when it fails, if and only if the class can be indented whenever
its file can be opened, or the file is an empty one anyway. -/
theorem allOrNothing_iff (config : Config) (d : Disk) (p : ExportedProject) (directory : Path) :
    AllOrNothing config d p directory ↔
      ∀ place, (openFile d directory (classFile directory p)).1 = .ok place →
        Indentable config p ∨ d.files.lookup place = some [] := by
  constructor
  · intro hall place hopened
    refine Classical.byContradiction fun hbad => ?_
    obtain ⟨hindent, hcontent⟩ := not_or.1 hbad
    obtain ⟨⟨fault, hfault⟩, hlookup⟩ := write_of_not_indentable hopened hindent
    have hkept := hall fault hfault place
    rw [hlookup, if_pos rfl] at hkept
    exact hcontent hkept.symm
  · intro h fault hfault q
    rcases write_cases config d p directory with ⟨e, hfails, _, hdisk⟩ |
      ⟨place, e, hopened, hrender, _, hdisk⟩ | ⟨_, _, _, _, hresult⟩
    · rw [hdisk, lookup_openFile, hfails]
    · rw [hdisk, lookup_openFile, hopened]
      have hempty : d.files.lookup place = some [] := by
        refine (h place hopened).resolve_left fun hindent => ?_
        obtain ⟨text, htext⟩ := exists_render_eq_ok.2 hindent
        rw [hrender] at htext
        cases htext
      by_cases hq : q = place
      · simp only [hq, if_pos, hempty]
      · simp only [if_neg hq]
    · rw [hresult] at hfault
      cases hfault

/-- An indentation that only the helper methods and the members of the class make use of: the test
is exported, but the class cannot be written.  The run leaves an empty file, be it a new one or one
that was generated before. -/
theorem not_allOrNothing_wideIndent :
    let config := { Config.default with indent := 9223372036854775808 }
    let project : Project :=
      { name := "Shop", tests := [{ name := "t", commands := [{ name := "close" }] }] }
    let p : ExportedProject := ⟨"Shop", "ShopCest", [⟨"t", "t", ["$I->closeTab();"], []⟩],
      Window.helperMethods "AcceptanceTester", []⟩
    let directory : Path := { parts := ["out"] }
    let place := ["out", "ShopCest.php"]
    let generated : Disk := { files := [(place, bytesOf "<?php\n")] }
    (Export.project Registry.default config project []).result = .ok p ∧
      (write config {} p directory).disk.files.lookup place = some [] ∧
      ¬AllOrNothing config {} p directory ∧
      (write config generated p directory).disk.files.lookup place = some [] ∧
      ¬AllOrNothing config generated p directory := by
  intro config project p directory place generated
  have hexport : (Export.project Registry.default config project []).result = .ok p :=
    toOption_eq_some.1 (by decide +kernel)
  have hindent : ¬Indentable config p := fun h => absurd h.members (by decide)
  have hnew : (openFile {} directory (classFile directory p)).1 = .ok place :=
    toOption_eq_some.1 (by decide +kernel)
  have hthere : (openFile generated directory (classFile directory p)).1 = .ok place :=
    toOption_eq_some.1 (by decide +kernel)
  obtain ⟨⟨fault, hfault⟩, hlookup⟩ := write_of_not_indentable hnew hindent
  obtain ⟨⟨fault', hfault'⟩, hlookup'⟩ := write_of_not_indentable hthere hindent
  refine ⟨hexport, hlookup place, fun hall => ?_, hlookup' place, fun hall => ?_⟩
  · have hkept := hall fault hfault place
    rw [hlookup place, if_pos rfl] at hkept
    cases hkept
  · have hkept := hall fault' hfault' place
    rw [hlookup' place, if_pos rfl] at hkept
    exact absurd hkept (by decide +kernel)

end Export

end CestExport
