import CestExport.Proofs.Context
import CestExport.Proofs.Export.Project
import CestExport.Proofs.Export.Test

/-!
# A project is exported test by test

The tests of a project share a context, but all that one test leaves to the next is
how many loops have been numbered.  So each test becomes what it becomes in a
context of its own that begins at that number, and the variables of the class are
those of the tests, one after the other and each at its first appearance.

    steps … c = .ok body  →  in every context with these settings the steps assign the
      same variables, and generate body if as many loops are numbered       (steps_advance)
    project … = .ok e  →  e.tests and e.written, test by test               (tests_of_project)
-/

namespace CestExport.Export

open Registry

/-! ## Algorithm -/

/-- How many loops of some steps are numbered. -/
def numberedLoops (steps : List Step) : Nat :=
  steps.countP fun s => s.isActive && s.isNumbered

/-- How many loops are numbered in the first tests of a list. -/
def loopsBefore (ts : List TestCase) (k : Nat) : Nat :=
  numberedLoops ((ts.take k).flatMap (·.commands))

/-! ## Steps -/

theorem numberedLoops_of_inactive {s : Step} (h : s.isActive = false) (rest : List Step) :
    numberedLoops (s :: rest) = numberedLoops rest := by
  simp [numberedLoops, h]

theorem numberedLoops_of_active {s : Step} (h : s.isActive = true) (rest : List Step) :
    numberedLoops (s :: rest) = s.isNumbered.toNat + numberedLoops rest := by
  rw [numberedLoops, List.countP_cons, Nat.add_comm]
  cases s.isNumbered <;> simp [h, numberedLoops]

/-- The generation of steps, in all contexts that have the settings of one in which it succeeds: the
same variables are assigned, as many loops are numbered, and what is generated depends on how many
were numbered before. -/
theorem steps_advance {strict : Bool} {test : String} {n : Nat} {ss : List Step} {c : Context}
    {body : Body} (h : (steps default strict test n ss c).result = .ok body) :
    ∃ names, (∀ m, (∃ e ∈ body.emissions, e.Assigns m) ↔ m ∈ names) ∧
      ∀ c', c'.settings = c.settings → ∃ body',
        (steps default strict test n ss c').result = .ok body' ∧
        (steps default strict test n ss c').context = c'.advance names (numberedLoops ss) ∧
        (c'.counters = c.counters → body' = body) := by
  induction ss generalizing n c body with
  | nil =>
    cases h
    exact ⟨[], by simp, fun c' _ => ⟨{}, rfl, rfl, fun _ => rfl⟩⟩
  | cons s rest ih =>
    rcases steps_cons_eq_ok h with ⟨hactive, hrest⟩ | ⟨hactive, hunknown, rfl, b, hrest, rfl⟩ |
      ⟨hactive, hknown, e, context, b, hemit, hrest, rfl⟩
    · simpa only [steps_of_inactive _ _ _ _ hactive, numberedLoops_of_inactive hactive] using
        ih hrest
    · obtain ⟨names, hassigns, hrun⟩ := ih hrest
      refine ⟨names, hassigns, fun c' hsettings => ?_⟩
      obtain ⟨body', hresult, hcontext, hsame⟩ := hrun c' hsettings
      obtain ⟨hresult', hcontext'⟩ := steps_of_unknown default test n rest hactive hunknown c'
      rw [hresult', hcontext', hresult, hcontext, numberedLoops_of_active hactive,
        isNumbered_of_unknown hunknown, Bool.toNat_false, Nat.zero_add]
      exact ⟨_, rfl, rfl, fun hcounters => by rw [hsame hcounters]⟩
    · obtain ⟨names, hassigns, hadvance⟩ := emit_advance (c := c) (by rw [hemit])
      obtain ⟨more, hmore, hrun⟩ := ih hrest
      refine ⟨names ++ more, by simp [hassigns, hmore], fun c' hsettings => ?_⟩
      obtain ⟨e', hemit', hsame⟩ := hadvance c' hsettings
      -- the step advances both contexts alike, so the rest begins with the same settings
      obtain ⟨_, hown, _⟩ := hadvance c rfl
      rw [hemit] at hown
      cases hown
      obtain ⟨body', hresult, hcontext, hsameRest⟩ :=
        hrun (c'.advance names s.isNumbered.toNat) hsettings
      obtain ⟨hresult', hcontext'⟩ :=
        steps_of_emit default test n rest hactive hknown strict hemit'
      rw [hresult', hcontext', hresult, hcontext, Context.advance_advance,
        numberedLoops_of_active hactive]
      refine ⟨_, rfl, rfl, fun hcounters => ?_⟩
      rw [hsame hcounters, hsameRest (by simp [Context.advance, hcounters])]

/-! ## Tests -/

/-- The export of a test leaves the context that its steps leave, also if it fails behind them. -/
theorem context_test {registry : Registry} {config : Config} {t : TestCase} {c : Context}
    {method : String} (h : Php.identifier? t.name = some method) :
    (test registry config t c).context =
      (steps registry config.strict t.name 1 t.commands c).context := by
  unfold test
  rw [h]
  simp only
  split
  next => rfl
  next => split <;> rfl

/-- The result of a test's export is made from what its steps generate. -/
theorem result_test {registry : Registry} {config : Config} {t : TestCase} {c c' : Context}
    (h : (steps registry config.strict t.name 1 t.commands c').result =
      (steps registry config.strict t.name 1 t.commands c).result) :
    (test registry config t c').result = (test registry config t c).result := by
  unfold test
  split
  next => rfl
  next =>
    simp only [h]
    split
    next => rfl
    next => split <;> rfl

/-- The export of a test, in all contexts that have the settings of one in which it succeeds. -/
theorem test_advance {config : Config} {t : TestCase} {c : Context} {x : ExportedTest}
    (h : (test default config t c).result = .ok x) :
    ∃ names, ∀ c', c'.settings = c.settings →
      (test default config t c').context = c'.advance names (numberedLoops t.commands) ∧
      (c'.counters = c.counters → (test default config t c').result = .ok x) := by
  obtain ⟨emissions, hsteps, _⟩ := test_eq_ok h
  obtain ⟨names, _, hrun⟩ := steps_advance hsteps
  refine ⟨names, fun c' hsettings => ?_⟩
  obtain ⟨body', hresult, hcontext, hsame⟩ := hrun c' hsettings
  constructor
  · rw [context_test (methodName_of_test h), hcontext]
  · intro hcounters
    rw [← h]
    refine result_test ?_
    rw [hresult, hsame hcounters, hsteps]

/-! ## Runs of tests -/

theorem context_tests_cons {registry : Registry} {config : Config} {taken : List String}
    {t : TestCase} {ts : List TestCase} {c : Context} {x : ExportedTest}
    (h : (test registry config t c).result = .ok x) (hnew : x.methodName ∉ taken) :
    (tests registry config taken (t :: ts) c).context =
      (tests registry config (x.methodName :: taken) ts
        (test registry config t c).context).context := by
  simp [tests, h, hnew]

theorem loopsBefore_succ (t : TestCase) (ts : List TestCase) (k : Nat) :
    loopsBefore (t :: ts) (k + 1) = numberedLoops t.commands + loopsBefore ts k := by
  simp [loopsBefore, numberedLoops]

/-- Each of the tests of a run becomes what it becomes in any context with the same settings and the
number of loops that the tests in front of it have numbered. -/
theorem getElem?_tests {config : Config} {taken : List String} {ts : List TestCase} {c : Context}
    {es : List ExportedTest} (h : (tests default config taken ts c).result = .ok es) {k : Nat}
    {t : TestCase} (ht : ts[k]? = some t) (scope : Scope) : ∃ x, es[k]? = some x ∧
      (test default config t
        ⟨c.settings, scope, c.counters + loopsBefore ts k⟩).result = .ok x := by
  induction ts generalizing taken c es k with
  | nil => simp at ht
  | cons t' ts ih =>
    obtain ⟨x, rest, hx, hnew, hrest, rfl⟩ := tests_cons_eq_ok h
    obtain ⟨names, hadvance⟩ := test_advance hx
    cases k with
    | zero =>
      obtain rfl : t' = t := by simpa using ht
      exact ⟨x, rfl, (hadvance ⟨c.settings, scope, c.counters⟩ rfl).2 rfl⟩
    | succ k =>
      rw [(hadvance c rfl).1] at hrest
      obtain ⟨y, hy, hresult⟩ := ih hrest (by simpa using ht)
      refine ⟨y, by simpa using hy, ?_⟩
      rw [loopsBefore_succ, ← Nat.add_assoc]
      exact hresult

/-- The variables of a run are those that its tests assign by themselves, each at its first
appearance. -/
theorem written_tests {config : Config} {taken : List String} {ts : List TestCase} {c : Context}
    {es : List ExportedTest} (h : (tests default config taken ts c).result = .ok es) {c' : Context}
    (hsettings : c'.settings = c.settings) (hscope : c'.scope = {}) :
    (tests default config taken ts c).context.scope.written = addAllNew c.scope.written
      (ts.flatMap fun t => (test default config t c').context.scope.written) := by
  induction ts generalizing taken c es with
  | nil => rfl
  | cons t ts ih =>
    obtain ⟨x, rest, hx, hnew, hrest, rfl⟩ := tests_cons_eq_ok h
    obtain ⟨names, hadvance⟩ := test_advance hx
    have hown : (test default config t c').context.scope.written = distinct names := by
      rw [(hadvance c' hsettings).1, Context.advance, hscope]
      rfl
    rw [context_tests_cons hx hnew]
    rw [(hadvance c rfl).1] at hrest ⊢
    rw [ih hrest hsettings, List.flatMap_cons, addAllNew_append, hown, addAllNew_distinct]
    rfl

/-! ## Projects -/

/-- An exported project is put together from its tests: each of them becomes what it becomes in a
context of its own, which begins at the number of loops that the tests in front of it number, and
whatever variables were assigned before; and the variables of the project are those that each test
assigns by itself, one test after the other, without repetition. -/
theorem tests_of_project {config : Config} {p : Project} {keys : List String}
    {e : ExportedProject} (h : (project default config p keys).result = .ok e) :
    ∃ selected, select p keys = .ok selected ∧ e.tests.length = selected.length ∧
      (∀ (k : Nat) (t : TestCase), selected[k]? = some t → ∀ scope : Scope,
        ∃ x, e.tests[k]? = some x ∧
          (test default config t { start config (some p) with
            scope := scope, counters := loopsBefore selected k }).result = .ok x) ∧
      e.written = distinct (selected.flatMap fun t =>
        (test default config t (start config (some p))).context.scope.written) := by
  obtain ⟨selected, hselected, htests, _, hwritten⟩ := project_eq_ok h
  refine ⟨selected, hselected, length_tests htests, fun k t ht scope => ?_, ?_⟩
  · have htest := getElem?_tests htests ht scope
    rwa [show (start config (some p)).counters = 0 from rfl, Nat.zero_add] at htest
  · rw [hwritten, written_tests htests rfl rfl]
    rfl

/-- A test with a numbered loop, and one with a named loop around a numbered one that opens a
window; both assign the same variable. -/
def loopingProject : Project where
  name := "Shop"
  tests := [
    { name := "first", commands := [
      { name := "times", target := "2" }, { name := "store", target := "a", value := "x" },
      { name := "end" }] },
    { name := "second", commands := [
      { name := "times", id := "row", target := "3" },
      { name := "times", target := "4", opensWindow := true },
      { name := "store", target := "b", value := "y" },
      { name := "store", target := "c", value := "x" }, { name := "end" }, { name := "end" }] }]

/-- The second test when one loop was numbered before. -/
def loopingSecond : ExportedTest where
  name := "second"
  methodName := "second"
  lines := [
    "for ($i_row = 0; $i_row < 3; $i_row++) \x7b",
    "    $this->vars['windowHandles'] = $this->windowHandles($I);",
    "    for ($i1 = 0; $i1 < 4; $i1++) \x7b",
    "    $this->waitForWindow($I, 2);",
    "        $this->vars['y'] = 'b';",
    "        $this->vars['x'] = 'c';",
    "    \x7d",
    "\x7d"]
  skipped := []

theorem tests_of_project_loopingProject :
    let first : ExportedTest := ⟨"first", "first",
      ["for ($i = 0; $i < 2; $i++) \x7b", "    $this->vars['x'] = 'a';", "\x7d"], []⟩
    let e : ExportedProject := ⟨"Shop", "ShopCest", [first, loopingSecond],
      Window.helperMethods "AcceptanceTester", ["x", "windowHandles", "y"]⟩
    (project default Config.default loopingProject []).result = .ok e ∧
      ∀ t, loopingProject.tests[1]? = some t →
        (test default Config.default t
          { start Config.default (some loopingProject) with
            scope := ⟨["other"]⟩, counters := 1 }).result = .ok loopingSecond := by
  intro first e
  have hexport : (project default Config.default loopingProject []).result = .ok e :=
    toOption_eq_some.1 (by decide +kernel)
  obtain ⟨selected, hselected, _, htests, _⟩ := tests_of_project hexport
  obtain rfl : loopingProject.tests = selected := Except.ok.inj hselected
  refine ⟨hexport, fun t ht => ?_⟩
  obtain ⟨x, hx, hresult⟩ := htests 1 t ht ⟨["other"]⟩
  obtain rfl : loopingSecond = x := Option.some.inj hx
  exact hresult

end CestExport.Export
