import CestExport.Export.Project
import CestExport.Proofs.Success
import Mathlib.Data.List.Pairwise

/-!
# The methods of the generated class

The methods of a class are its tests and its helper methods.  An export makes sure
that their names differ as texts; PHP takes names that differ in the case of
ASCII letters only for one method, so the class declares no method twice exactly
if no two of the names differ in that way.

    tests … = .ok es    →  the names made from the tests, new and different  (methodNames_of_tests)
    project … = .ok e   →  no method twice  ↔  no two names differ in case only (redeclares_iff)
-/

namespace CestExport

/-! ## Algorithm -/

/-- Two names that PHP takes for the same method: equal but for the case of ASCII letters. -/
def Php.SameMethod (a b : String) : Prop :=
  a.toList.map Char.toLower = b.toList.map Char.toLower

instance (a b : String) : Decidable (Php.SameMethod a b) :=
  inferInstanceAs (Decidable (_ = _))

/-- The names of the methods of a class: its tests and its helper methods. -/
def ExportedProject.methodNames (p : ExportedProject) : List String :=
  p.tests.map (·.methodName) ++ p.helpers.map (·.name)

/-- A class with two methods that PHP takes for one. -/
def ExportedProject.Redeclares (p : ExportedProject) : Prop :=
  ¬p.methodNames.Pairwise fun a b => ¬Php.SameMethod a b

namespace Export

/-- The names of the methods that tests become, if all of them have one, and of the helper
methods. -/
def plannedNames (config : Config) (selected : List TestCase) : List String :=
  selected.filterMap (fun t => Php.identifier? t.name) ++
    (Window.helperMethods (testerName config)).map (·.name)

/-! ## Tests -/

/-- An exported test keeps its name, and its method has the name made from it. -/
theorem names_of_test {registry : Registry} {config : Config} {t : TestCase}
    {context : Context} {e : ExportedTest}
    (h : (test registry config t context).result = .ok e) :
    e.name = t.name ∧ Php.identifier? t.name = some e.methodName := by
  unfold test at h
  split at h
  next => cases h
  next method hmethod =>
    simp only at h
    split at h
    next => cases h
    next =>
      split at h
      next => cases h
      next =>
        cases h
        exact ⟨rfl, hmethod⟩

theorem methodName_of_test {registry : Registry} {config : Config} {t : TestCase}
    {context : Context} {e : ExportedTest}
    (h : (test registry config t context).result = .ok e) :
    Php.identifier? t.name = some e.methodName :=
  (names_of_test h).2

theorem tests_cons_eq_ok {registry : Registry} {config : Config} {taken : List String}
    {t : TestCase} {ts : List TestCase} {context : Context} {es : List ExportedTest}
    (h : (tests registry config taken (t :: ts) context).result = .ok es) :
    ∃ e rest, (test registry config t context).result = .ok e ∧ e.methodName ∉ taken ∧
      (tests registry config (e.methodName :: taken) ts
        (test registry config t context).context).result = .ok rest ∧ es = e :: rest := by
  rw [tests] at h
  simp only at h
  split at h
  next => cases h
  next e he =>
    split at h
    next => cases h
    next hnew =>
      obtain ⟨rest, hrest, rfl⟩ := map_eq_ok.1 h
      exact ⟨e, rest, he, by simpa using hnew, hrest, rfl⟩

/-- Tests that are exported have the method names made from their names; these are different, and
none of them was taken before. -/
theorem methodNames_of_tests {registry : Registry} {config : Config} {taken : List String}
    {ts : List TestCase} {context : Context} {es : List ExportedTest}
    (h : (tests registry config taken ts context).result = .ok es) :
    es.map (·.methodName) = ts.filterMap (fun t => Php.identifier? t.name) ∧
      (es.map (·.methodName)).Nodup ∧ ∀ e ∈ es, e.methodName ∉ taken := by
  induction ts generalizing taken context es with
  | nil =>
    cases h
    simp
  | cons t ts ih =>
    obtain ⟨e, rest, he, hnew, hrest, rfl⟩ := tests_cons_eq_ok h
    obtain ⟨hnames, hnodup, hfresh⟩ := ih hrest
    refine ⟨?_, ?_, ?_⟩
    · rw [List.map_cons, List.filterMap_cons, methodName_of_test he, hnames]
    · rw [List.map_cons, List.nodup_cons]
      refine ⟨?_, hnodup⟩
      intro hmem
      obtain ⟨e', he', hsame⟩ := List.mem_map.1 hmem
      exact hfresh e' he' (hsame ▸ List.mem_cons_self)
    · rw [List.forall_mem_cons]
      refine ⟨hnew, ?_⟩
      intro e' he' hmem
      exact hfresh e' he' (List.mem_cons_of_mem _ hmem)

theorem length_tests {registry : Registry} {config : Config} {taken : List String}
    {ts : List TestCase} {c : Context} {es : List ExportedTest}
    (h : (tests registry config taken ts c).result = .ok es) : es.length = ts.length := by
  induction ts generalizing taken c es with
  | nil =>
    cases h
    rfl
  | cons t ts ih =>
    obtain ⟨x, rest, _, _, hrest, rfl⟩ := tests_cons_eq_ok h
    rw [List.length_cons, List.length_cons, ih hrest]

/-! ## Projects -/

theorem plan_eq_ok {config : Config} {p : Project} {keys : List String}
    {selected : List TestCase} {name : String} (h : plan config p keys = .ok (selected, name)) :
    select p keys = .ok selected := by
  obtain ⟨ts, hts, h⟩ := bind_eq_ok.1 h
  split at h
  next =>
    cases h
    exact hts
  next => cases h

theorem project_eq_ok {registry : Registry} {config : Config} {p : Project} {keys : List String}
    {e : ExportedProject} (h : (project registry config p keys).result = .ok e) :
    ∃ selected, select p keys = .ok selected ∧
      (tests registry config ((Window.helperMethods (testerName config)).map (·.name)) selected
        (start config (some p))).result = .ok e.tests ∧
      e.helpers = Window.helperMethods (testerName config) ∧
      e.written = (tests registry config ((Window.helperMethods (testerName config)).map (·.name))
        selected (start config (some p))).context.scope.written := by
  unfold project at h
  simp only at h
  split at h
  next => cases h
  next selected name hplan =>
    split at h
    next => cases h
    next es hes =>
      cases h
      exact ⟨selected, plan_eq_ok hplan, hes, rfl, rfl⟩

/-- The methods of an exported class have the names made from the selected tests and those of the
helper methods, and these names are different. -/
theorem methodNames_of_project {registry : Registry} {config : Config} {p : Project}
    {keys : List String} {e : ExportedProject}
    (h : (project registry config p keys).result = .ok e) :
    ∃ selected, select p keys = .ok selected ∧
      e.methodNames = plannedNames config selected ∧ e.methodNames.Nodup := by
  obtain ⟨selected, hselected, htests, hhelpers, _⟩ := project_eq_ok h
  obtain ⟨hnames, hnodup, hfresh⟩ := methodNames_of_tests htests
  have hhelperNames : ((Window.helperMethods (testerName config)).map (·.name)).Nodup := by
    show ["findElement", "findElements", "windowHandles", "waitForWindow"].Nodup
    decide
  refine ⟨selected, hselected, ?_, ?_⟩
  · rw [ExportedProject.methodNames, hnames, hhelpers, plannedNames]
  · rw [ExportedProject.methodNames, hhelpers, List.nodup_append]
    refine ⟨hnodup, hhelperNames, ?_⟩
    rintro a ha b hb rfl
    obtain ⟨t, ht, rfl⟩ := List.mem_map.1 ha
    exact hfresh t ht hb

end Export

/-! ## Case -/

theorem Php.SameMethod.symm {a b : String} (h : SameMethod a b) : SameMethod b a :=
  Eq.symm h

/-- Among different names, two are one method if and only if two differ in case only. -/
theorem not_pairwise_sameMethod_iff {names : List String} (h : names.Nodup) :
    (¬names.Pairwise fun a b => ¬Php.SameMethod a b) ↔
      ∃ a ∈ names, ∃ b ∈ names, a ≠ b ∧ Php.SameMethod a b := by
  constructor
  · intro hclash
    by_contra hnone
    refine hclash (h.imp_of_mem ?_)
    intro a b ha hb hne hsame
    exact hnone ⟨a, ha, b, hb, hne, hsame⟩
  · rintro ⟨a, ha, b, hb, hne, hsame⟩ hpairwise
    have hsymm : Std.Symm fun a b => ¬Php.SameMethod a b := ⟨fun _ _ hxy hyx => hxy hyx.symm⟩
    exact hpairwise.forall ha hb hne hsame

/-- An exported class declares a method twice if and only if two of the names made from the selected
tests, those of the helper methods among them, differ in the case of letters only; equal names
are never exported. -/
theorem Export.redeclares_iff {registry : Registry} {config : Config} {p : Project}
    {keys : List String} {e : ExportedProject}
    (h : (project registry config p keys).result = .ok e) :
    ∃ selected, select p keys = .ok selected ∧
      e.methodNames = plannedNames config selected ∧ e.methodNames.Nodup ∧
      (e.Redeclares ↔ ∃ a ∈ plannedNames config selected, ∃ b ∈ plannedNames config selected,
        a ≠ b ∧ Php.SameMethod a b) := by
  obtain ⟨selected, hselected, hnames, hnodup⟩ := methodNames_of_project h
  refine ⟨selected, hselected, hnames, hnodup, ?_⟩
  rw [← hnames]
  exact not_pairwise_sameMethod_iff hnodup

/-- A project with a test whose method is a helper method in other letters. -/
def searchProject : Project where
  name := "Search"
  tests := [{ name := "open" }, { name := "Find element" }]

theorem Export.redeclares_iff_searchProject :
    let e : ExportedProject := ⟨"Search", "SearchCest",
      [⟨"open", "open", [], []⟩, ⟨"Find element", "Findelement", [], []⟩],
      Window.helperMethods "AcceptanceTester", []⟩
    (project Registry.default Config.default searchProject []).result = .ok e ∧ e.Redeclares := by
  intro e
  have hexport : (project Registry.default Config.default searchProject []).result = .ok e :=
    toOption_eq_some.1 (by decide +kernel)
  obtain ⟨selected, hselected, hnames, _, hclash⟩ := redeclares_iff hexport
  refine ⟨hexport, hclash.2 ?_⟩
  rw [← hnames]
  exact ⟨"Findelement", by decide, "findElement", by decide, by decide, by decide⟩

/-- Tests whose names differ in a capital letter only become one method twice. -/
theorem Export.redeclared_capital :
    let p : Project := { name := "Shop", tests := [{ name := "Login" }, { name := "login" }] }
    let e : ExportedProject := ⟨"Shop", "ShopCest",
      [⟨"Login", "Login", [], []⟩, ⟨"login", "login", [], []⟩],
      Window.helperMethods "AcceptanceTester", []⟩
    (project Registry.default Config.default p []).result = .ok e ∧
      Php.SameMethod "Login" "login" ∧ e.Redeclares := by
  intro p e
  have hexport : (project Registry.default Config.default p []).result = .ok e :=
    toOption_eq_some.1 (by decide +kernel)
  have hclash : ¬e.methodNames.Pairwise fun a b => ¬Php.SameMethod a b := by decide
  exact ⟨hexport, by decide, hclash⟩

end CestExport
