import CestExport.Proofs.Export.Composition
import Mathlib.Data.List.Forall2

/-!
# The variables of a class are those that its statements assign

Each step records in the scope what its lines assign, and laying lines out drops
only empty ones, which assign nothing.  So the variables that an exported project
names are exactly those that some statement of its tests assigns.

    tests … c = .ok es  →  n is written behind c  ↔
      n is written in c, or a laid line assigns n                     (mem_written_tests)
    project … = .ok e   →  n ∈ e.written  ↔  a laid line assigns n    (mem_written_iff)
-/

namespace CestExport.Export

open Registry

/-! ## Algorithm -/

/-- The lines that steps generate, with their levels; none if a step fails. -/
def laidLines (o : Outcome ExportFailure Body) : List Line :=
  match o.result with
  | .ok body => Layout.lay body.emissions
  | .error _ => []

/-- The statements of tests that are generated one after the other, test by test. -/
def statements (registry : Registry) (config : Config) : List TestCase → Context → List (List Line)
  | [], _ => []
  | t :: ts, c =>
    let o := steps registry config.strict t.name 1 t.commands c
    laidLines o :: statements registry config ts o.context

/-! ## Lines -/

/-- An empty text assigns nothing. -/
theorem not_assigns_empty (n : String) : ¬Php.Assigns "" n := by
  rw [Php.Assigns, Php.beginsWith_iff]
  intro h
  simp [Php.toList_read] at h

/-- Laying out keeps every line that assigns a variable. -/
theorem assigns_lay (es : List Emission) (n : String) :
    (∃ l ∈ Layout.lay es, Php.Assigns l.text n) ↔ ∃ e ∈ es, e.Assigns n := by
  have htexts : (∃ l ∈ Layout.lay es, Php.Assigns l.text n) ↔
      ∃ text ∈ Layout.texts es, Php.Assigns text n := by
    rw [← Layout.map_text_layFrom 0 es]
    simp [Layout.lay]
  rw [htexts]
  constructor
  · rintro ⟨text, htext, hassigns⟩
    obtain ⟨e, he, hline⟩ := List.mem_flatMap.1 (List.mem_filter.1 htext).1
    obtain ⟨l, hl, rfl⟩ := List.mem_map.1 hline
    exact ⟨e, he, l, hl, hassigns⟩
  · rintro ⟨e, he, l, hl, hassigns⟩
    have hne : l.text ≠ "" := by
      intro hempty
      rw [hempty] at hassigns
      exact not_assigns_empty n hassigns
    refine ⟨l.text, List.mem_filter.2 ⟨?_, by simpa using hne⟩, hassigns⟩
    exact List.mem_flatMap.2 ⟨e, he, List.mem_map_of_mem hl⟩

/-! ## Tests -/

/-- An exported test is its statements, indented, and the variables recorded are those that they
assign. -/
theorem mem_written_test {config : Config} {t : TestCase} {c : Context} {x : ExportedTest}
    (h : (test default config t c).result = .ok x) :
    let o := steps default config.strict t.name 1 t.commands c
    Layout.indent config.indent (laidLines o) = .ok x.lines ∧
      (test default config t c).context = o.context ∧
      ∀ n, n ∈ o.context.scope.written ↔
        n ∈ c.scope.written ∨ ∃ l ∈ laidLines o, Php.Assigns l.text n := by
  intro o
  obtain ⟨emissions, hsteps, hlines⟩ := test_eq_ok h
  obtain ⟨names, hassigns, hadvance⟩ := steps_advance hsteps
  obtain ⟨_, _, hcontext, _⟩ := hadvance c rfl
  have hlaid : laidLines o = Layout.lay emissions := by
    simp only [laidLines, o, hsteps]
  refine ⟨?_, context_test (methodName_of_test h), fun n => ?_⟩
  · rw [hlaid]
    exact mapError_eq_ok.1 hlines
  · rw [hlaid, assigns_lay, hassigns, hcontext]
    exact mem_addAllNew

theorem mem_written_tests {config : Config} {taken : List String} {ts : List TestCase}
    {c : Context} {es : List ExportedTest}
    (h : (tests default config taken ts c).result = .ok es) :
    List.Forall₂ (fun x ls => Layout.indent config.indent ls = .ok x.lines) es
        (statements default config ts c) ∧
      ∀ n, n ∈ (tests default config taken ts c).context.scope.written ↔
        n ∈ c.scope.written ∨
          ∃ ls ∈ statements default config ts c, ∃ l ∈ ls, Php.Assigns l.text n := by
  induction ts generalizing taken c es with
  | nil =>
    cases h
    exact ⟨.nil, by simp [tests, statements]⟩
  | cons t ts ih =>
    obtain ⟨x, rest, hx, hnew, hrest, rfl⟩ := tests_cons_eq_ok h
    obtain ⟨hlines, hcontext, hwritten⟩ := mem_written_test hx
    rw [context_tests_cons hx hnew]
    rw [hcontext] at hrest ⊢
    obtain ⟨hall, hmem⟩ := ih hrest
    refine ⟨.cons hlines hall, fun n => ?_⟩
    rw [hmem, hwritten, or_assoc, statements, List.exists_mem_cons_iff]

/-! ## Projects -/

/-- The variables of an exported project are listed without repetition, and a name is among them if
and only if a statement of one of the tests, those around a step that opens a window included,
begins by assigning the variable of that name. -/
theorem mem_written_iff {config : Config} {p : Project} {keys : List String}
    {e : ExportedProject} (h : (project default config p keys).result = .ok e) :
    ∃ selected, select p keys = .ok selected ∧
      let laid := statements default config selected (start config (some p))
      List.Forall₂ (fun x ls => Layout.indent config.indent ls = .ok x.lines) e.tests laid ∧
      e.written.Nodup ∧
      ∀ n, n ∈ e.written ↔ ∃ ls ∈ laid, ∃ l ∈ ls, Php.Assigns l.text n := by
  obtain ⟨selected, hselected, htests, _, hwritten⟩ := project_eq_ok h
  obtain ⟨hlines, hmem⟩ := mem_written_tests htests
  refine ⟨selected, hselected, hlines, ?_, fun n => ?_⟩
  · rw [hwritten, written_tests htests rfl rfl]
    exact nodup_addAllNew List.nodup_nil _
  · rw [hwritten, hmem]
    exact or_iff_right List.not_mem_nil

/-- A test that assigns the items of a loop, a new window and a text, and reads other variables. -/
def storingProject : Project where
  name := "Shop"
  tests := [{ name := "rows", commands := [
    { name := "forEach", target := "rows", value := "row" },
    { name := "close", opensWindow := true, windowHandleName := "child" },
    { name := "store", target := "$\x7bother\x7d", value := "it's" },
    { name := "storeText" }, { name := "end" }] }]

theorem mem_written_iff_storingProject :
    let x : ExportedTest := ⟨"rows", "rows", [
      "foreach ($this->vars['rows'] as $item) \x7b",
      "    $this->vars['row'] = $item;",
      "    $this->vars['windowHandles'] = $this->windowHandles($I);",
      "    $I->closeTab();",
      "    $this->vars['child'] = $this->waitForWindow($I, 2);",
      "    $this->vars['it\\'s'] = $this->vars['other'];",
      "\x7d"], []⟩
    let e : ExportedProject := ⟨"Shop", "ShopCest", [x], Window.helperMethods "AcceptanceTester",
      ["row", "windowHandles", "child", "it's"]⟩
    let laid := statements default Config.default storingProject.tests
      (start Config.default (some storingProject))
    (project default Config.default storingProject []).result = .ok e ∧
      (∃ ls ∈ laid, ∃ l ∈ ls, Php.Assigns l.text "it's") ∧
      ¬∃ ls ∈ laid, ∃ l ∈ ls, Php.Assigns l.text "other" := by
  intro x e laid
  have hexport : (project default Config.default storingProject []).result = .ok e :=
    toOption_eq_some.1 (by decide +kernel)
  obtain ⟨selected, hselected, _, _, hwritten⟩ := mem_written_iff hexport
  obtain rfl : storingProject.tests = selected := Except.ok.inj hselected
  exact ⟨hexport, (hwritten "it's").1 (by decide), mt (hwritten "other").2 (by decide)⟩

end CestExport.Export
