import CestExport.Proofs.Export.Project
import CestExport.Proofs.Php.Name
import CestExport.Proofs.Script

/-!
# Tests that run other tests

A step runs another test by calling the method that the name in its target becomes.
What is called is always an identifier; and since the methods of an exported class
have different names, the name of one of its tests leads to the method of this test
and to no other one.

    a step that runs a test calls the method made from its target     (generates_run)
    project … = .ok e, t in e.tests  →  steps run t by its name   (runs_of_project)
    the names that are generated, and the calls among them            (names_valid)
-/

namespace CestExport

open Php

/-! ## Algorithm -/

/-- The line that calls a method of the class. -/
def callOf (method : String) : Line :=
  ⟨0, s!"$this->{method}($I);"⟩

/-- A test of a class that steps run by its name: they call its method, whose name no other method
of the class has, nor one that differs from it in case only unless the class declares a method
twice. -/
structure ExportedProject.Runs (p : ExportedProject) (t : ExportedTest) : Prop where
  called (c : Context) (step : Step) : step.name = "run" → step.target = t.name →
    Generates c step (callOf t.methodName)
  once : p.methodNames.count t.methodName = 1
  alone : ¬p.Redeclares → ∀ m ∈ p.methodNames, SameMethod m t.methodName → m = t.methodName

/-! ## Steps -/

theorem Command.run_eq_ok {step : Step} {method : String}
    (h : identifier? step.target = some method) (settings : Settings) :
    run settings step = .ok (.statement s!"$this->{method}($I);") := by
  rw [run, h]

theorem Command.run_eq_error {step : Step} (h : identifier? step.target = none)
    (settings : Settings) : run settings step = .error (.methodName step.target) := by
  rw [run, h]

/-- A step that a generator refuses fails for the generator's reason and changes nothing. -/
theorem Registry.emit_of_refused {registry : Registry} {context : Context} {step : Step}
    {g : Generator} {f : Failure} (hfind : registry.find? step.name = some g.emitter)
    (hf : g context.settings step = .error f) :
    registry.emit context step = (.error f, context) := by
  simp [emit, hfind, Generator.emitter, hf, Except.map]

section Run

variable {step : Step} (hrun : step.name = "run") (c : Context)

include hrun

theorem generates_run {method : String} (h : identifier? step.target = some method) :
    Generates c step (callOf method) :=
  generates_of_finish (Registry.emit_of_draft c hrun rfl (Command.run_eq_ok h c.settings)) rfl

theorem emit_run_of_none (h : identifier? step.target = none) :
    Registry.default.emit c step = (.error (.methodName step.target), c) :=
  Registry.emit_of_refused (Registry.find?_of_find hrun rfl) (Command.run_eq_error h c.settings)

/-- A step that runs a test calls a name, if anything is generated for it. -/
theorem exists_call {e : Emission} (h : (Registry.default.emit c step).1 = .ok e) :
    ∃ method, NameOf (nameChars step.target) method ∧ callOf method ∈ e.toBlock.lines := by
  cases hmethod : identifier? step.target with
  | none =>
    rw [emit_run_of_none hrun c hmethod] at h
    cases h
  | some method =>
    have hline := (generates_run hrun c hmethod).within e h
    exact ⟨method, nameOf_of_identifier? hmethod, hline⟩

end Run

/-! ## Tests -/

namespace Export

/-- Every exported test has the method that is made from its name. -/
theorem methodName_of_mem_tests {registry : Registry} {config : Config} {taken : List String}
    {ts : List TestCase} {c : Context} {xs : List ExportedTest}
    (h : (tests registry config taken ts c).result = .ok xs) :
    ∀ x ∈ xs, identifier? x.name = some x.methodName := by
  induction ts generalizing taken c xs with
  | nil =>
    cases h
    simp
  | cons t ts ih =>
    obtain ⟨x, rest, hx, -, hrest, rfl⟩ := tests_cons_eq_ok h
    obtain ⟨hname, hmethod⟩ := names_of_test hx
    rw [List.forall_mem_cons, hname]
    exact ⟨hmethod, ih hrest⟩

/-- Each test of an exported class is run by its name. -/
theorem runs_of_project {registry : Registry} {config : Config} {p : Project}
    {keys : List String} {e : ExportedProject}
    (h : (project registry config p keys).result = .ok e) {t : ExportedTest} (ht : t ∈ e.tests) :
    e.Runs t := by
  obtain ⟨_, _, htests, _, _⟩ := project_eq_ok h
  obtain ⟨_, _, _, hnodup⟩ := methodNames_of_project h
  have hmethod : t.methodName ∈ e.methodNames :=
    List.mem_append_left _ (List.mem_map_of_mem ht)
  refine ⟨?_, ?_, ?_⟩
  · intro c step hrun htarget
    apply generates_run hrun c
    rw [htarget]
    exact methodName_of_mem_tests htests t ht
  · rw [hnodup.count, if_pos hmethod]
  · intro honce m hm hsame
    by_contra hne
    apply honce
    exact (not_pairwise_sameMethod_iff hnodup).2 ⟨m, hm, t.methodName, hmethod, hne, hsame⟩

end Export

/-! ## Names and calls -/

/-- The names that are generated are identifiers.  A name is made from a text unless none of its
characters can stand in a name, and it has all that can.  A class has a name unless the project's
name has no letter or digit and the suffix no character that can stand in a name, and every letter
and digit of the project's name is in it, but for the case.  If something is generated for a step
that runs a test, it calls such a name; and every test of an exported class is run by its name. -/
theorem names_valid :
    (∀ s, (identifier? s = none ↔ ∀ x ∈ s.toList, isNameChar x = false) ∧
      ∀ name, identifier? s = some name → NameOf (nameChars s) name) ∧
    (∀ project suffix,
      (className? project suffix = none ↔
        (∀ x ∈ project.toList, x.isAlphanum = false) ∧
          ∀ x ∈ suffix.toList, isNameChar x = false) ∧
      (∀ name, className? project suffix = some name →
        NameOf ((pascalCase project).toList ++ nameChars suffix) name) ∧
      (pascalCase project).toList.map Char.toLower =
        (project.toList.filter Char.isAlphanum).map Char.toLower) ∧
    (∀ (c : Context) (step : Step) (e : Emission), step.name = "run" →
      (Registry.default.emit c step).1 = .ok e →
      ∃ method, NameOf (nameChars step.target) method ∧ callOf method ∈ e.toBlock.lines) ∧
    ∀ registry config p keys e, (Export.project registry config p keys).result = .ok e →
      ∀ t ∈ e.tests, e.Runs t := by
  refine ⟨?_, ?_, ?_, ?_⟩
  · intro s
    exact ⟨identifier?_eq_none_iff, fun name => nameOf_of_identifier?⟩
  · intro project suffix
    exact ⟨className?_eq_none_iff, fun name => nameOf_of_className?, (pascalCase_spec project).2⟩
  · intro c step e hrun hemit
    exact exists_call hrun c hemit
  · intro registry config p keys e hexport t ht
    exact Export.runs_of_project hexport ht

/-- A project whose second test runs the first one, in a new window. -/
def visitProject : Project where
  name := "2 shops"
  tests := [{ name := "1st visit" }, { name := "again", commands := [
    { name := "run", target := "1st visit", opensWindow := true }] }]

theorem names_valid_visitProject :
    let e : ExportedProject := ⟨"2 shops", "_2ShopsCest",
      [⟨"1st visit", "_1stvisit", [], []⟩,
        ⟨"again", "again", ["$this->vars['windowHandles'] = $this->windowHandles($I);",
          "$this->_1stvisit($I);", "$this->waitForWindow($I, 2);"], []⟩],
      Window.helperMethods "AcceptanceTester", ["windowHandles"]⟩
    let step : Step := { name := "run", target := "1st visit", opensWindow := true }
    (Export.project Registry.default Config.default visitProject []).result = .ok e ∧
      identifier? "_2ShopsCest" = some "_2ShopsCest" ∧
      (∀ emission, (Registry.default.emit {} step).1 = .ok emission →
        ⟨0, "$this->_1stvisit($I);"⟩ ∈ emission.toBlock.lines) ∧
      e.methodNames.count "_1stvisit" = 1 := by
  intro e step
  have hexport : (Export.project Registry.default Config.default visitProject []).result = .ok e :=
    toOption_eq_some.1 (by decide +kernel)
  obtain ⟨-, hclass, -, hruns⟩ := names_valid
  have hname : className? "2 shops" "Cest" = some "_2ShopsCest" := by decide +kernel
  have hvisit : e.Runs ⟨"1st visit", "_1stvisit", [], []⟩ :=
    hruns _ _ _ _ e hexport _ List.mem_cons_self
  exact ⟨hexport, ((hclass _ _).2.1 _ hname).stable, (hvisit.called {} step rfl rfl).within,
    hvisit.once⟩

end CestExport
