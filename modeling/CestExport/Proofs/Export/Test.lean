import CestExport.Export.Test
import CestExport.Proofs.Layout
import CestExport.Proofs.Registry

/-!
# A test that passes the check is laid out by its blocks

The check keeps a stack of open blocks, the layout a sum of shifts.  If the check
finds no error, the two agree: every step is placed at the number of the blocks
that are open around it.

    steps … = .ok body   →  its first step is inactive, passed over or generated
                                                                        (steps_cons_eq_ok)
    steps … = .ok body   →  each generated step has its emission      (emissions_of_steps)
    no error in lint     →  steps are placed at the levels of a tree     (placings_of_lint)
-/

namespace CestExport.Export

/-! ## Algorithm -/

/-- The steps of a test that are generated: active ones, with a command that is registered. -/
def generated (registry : Registry) (ss : List Step) : List Step :=
  ss.filter fun s => s.isActive && registry.canEmit s.name

/-! ## Lemmas -/

theorem generated_cons (registry : Registry) (s : Step) (rest : List Step) :
    generated registry (s :: rest) =
      if s.isActive && registry.canEmit s.name then s :: generated registry rest
      else generated registry rest :=
  List.filter_cons

/-! ## One step of a run -/

section Cons

variable (registry : Registry) (test : String) (n : Nat) {s : Step} (rest : List Step)

theorem steps_of_inactive (h : s.isActive = false) (strict : Bool) (c : Context) :
    steps registry strict test n (s :: rest) c = steps registry strict test (n + 1) rest c := by
  simp [steps, h]

theorem steps_of_unknown (hactive : s.isActive = true) (hunknown : registry.canEmit s.name = false)
    (c : Context) :
    (steps registry false test n (s :: rest) c).result =
      (steps registry false test (n + 1) rest c).result.map
        (fun b => { b with skipped := s.name :: b.skipped }) ∧
    (steps registry false test n (s :: rest) c).context =
      (steps registry false test (n + 1) rest c).context := by
  simp [steps, hactive, hunknown]

theorem steps_of_emit (hactive : s.isActive = true) (hknown : registry.canEmit s.name = true)
    (strict : Bool) {c c' : Context} {e : Emission} (h : registry.emit c s = (.ok e, c')) :
    (steps registry strict test n (s :: rest) c).result =
      (steps registry strict test (n + 1) rest c').result.map
        (fun b => { b with emissions := e :: b.emissions }) ∧
    (steps registry strict test n (s :: rest) c).context =
      (steps registry strict test (n + 1) rest c').context := by
  simp [steps, hactive, hknown, h]

/-- All that the first step of a run can be if the run succeeds: inactive, unknown and passed over,
or generated. -/
theorem steps_cons_eq_ok {registry : Registry} {strict : Bool} {test : String} {n : Nat}
    {rest : List Step} {c : Context} {body : Body}
    (h : (steps registry strict test n (s :: rest) c).result = .ok body) :
    (s.isActive = false ∧ (steps registry strict test (n + 1) rest c).result = .ok body) ∨
    (s.isActive = true ∧ registry.canEmit s.name = false ∧ strict = false ∧
      ∃ b, (steps registry strict test (n + 1) rest c).result = .ok b ∧
        body = { b with skipped := s.name :: b.skipped }) ∨
    (s.isActive = true ∧ registry.canEmit s.name = true ∧
      ∃ e c' b, registry.emit c s = (.ok e, c') ∧
        (steps registry strict test (n + 1) rest c').result = .ok b ∧
        body = { b with emissions := e :: b.emissions }) := by
  cases hactive : s.isActive with
  | false =>
    rw [steps_of_inactive _ _ _ _ hactive] at h
    exact .inl ⟨rfl, h⟩
  | true =>
    right
    cases hknown : registry.canEmit s.name with
    | false =>
      cases strict with
      | true => simp [steps, hactive, hknown] at h
      | false =>
        rw [(steps_of_unknown _ _ _ _ hactive hknown c).1] at h
        obtain ⟨b, hb, rfl⟩ := map_eq_ok.1 h
        exact .inl ⟨rfl, rfl, rfl, b, hb, rfl⟩
    | true =>
      cases hemit : registry.emit c s with
      | mk result c' =>
        cases result with
        | error f => simp [steps, hactive, hknown, hemit] at h
        | ok e =>
          rw [(steps_of_emit _ _ _ _ hactive hknown strict hemit).1] at h
          obtain ⟨b, hb, rfl⟩ := map_eq_ok.1 h
          exact .inr ⟨rfl, rfl, e, c', b, rfl, hb, rfl⟩

end Cons

/-! ## Whole runs -/

/-- The emissions of a test are those of its generated steps, in order. -/
theorem emissions_of_steps {registry : Registry} {strict : Bool} {test : String} {n : Nat}
    {ss : List Step} {c : Context} {body : Body}
    (h : (steps registry strict test n ss c).result = .ok body) :
    List.Forall₂ (fun s e => ∃ c, (registry.emit c s).1 = .ok e)
      (generated registry ss) body.emissions := by
  induction ss generalizing n c body with
  | nil =>
    cases h
    exact .nil
  | cons s rest ih =>
    rw [generated_cons]
    rcases steps_cons_eq_ok h with ⟨hactive, hrest⟩ | ⟨_, hunknown, _, b, hrest, rfl⟩ |
      ⟨hactive, hknown, e, c', b, hemit, hrest, rfl⟩
    · rw [if_neg (by simp [hactive])]
      exact ih hrest
    · rw [if_neg (by simp [hunknown])]
      have hemitted := ih hrest
      exact hemitted
    · rw [if_pos (by simp [hactive, hknown])]
      exact .cons ⟨c, by rw [hemit]⟩ (ih hrest)

theorem test_eq_ok {registry : Registry} {config : Config} {t : TestCase} {context : Context}
    {e : ExportedTest} (h : (test registry config t context).result = .ok e) :
    ∃ emissions,
      (steps registry config.strict t.name 1 t.commands context).result =
        .ok ⟨emissions, e.skipped⟩ ∧
      bodyLines config emissions = .ok e.lines := by
  unfold test at h
  split at h
  next => cases h
  next =>
    simp only at h
    split at h
    next => cases h
    next body hbody =>
      split at h
      next => cases h
      next lines hlines =>
        cases h
        exact ⟨body.emissions, hbody, hlines⟩

/-! ## Levels -/

/-- When the check finds no error in a test that is exported, its generated steps form a tree, and
each of them is placed at the number of the blocks that are open around it: no level is negative,
the surrounding level ends at zero, and the line that opens, continues or closes a block stands
at that very level. -/
theorem placings_of_lint {known : Option (List String)} {config : Config} {t : TestCase}
    {context : Context} {e : ExportedTest}
    (hlint : ∀ i ∈ Lint.lint known t, i.problem.severity ≠ .error)
    (hexport : (test Registry.default config t context).result = .ok e) :
    ∃ (emissions : List Emission) (tree : Lint.Tree),
      (steps Registry.default config.strict t.name 1 t.commands context).result =
        .ok ⟨emissions, e.skipped⟩ ∧
      bodyLines config emissions = .ok e.lines ∧
      tree.names = (generated Registry.default t.commands).map (·.name) ∧
      Layout.placings 0 emissions = (tree.levels 0).map Int.ofNat ∧
      (∀ level ∈ Layout.placings 0 emissions, 0 ≤ level) ∧
      Layout.lay emissions = Layout.layAt ((tree.levels 0).map Int.ofNat) emissions ∧
      Layout.shift emissions = 0 ∧
      List.Forall₂ (fun s x => Role.of s.name ≠ .plain →
          x.toBlock.ControlLine (Command.mark s.name))
        (generated Registry.default t.commands) emissions := by
  obtain ⟨emissions, hsteps, hlines⟩ := test_eq_ok hexport
  have hemitted := emissions_of_steps hsteps
  have hkeep : ∀ name, Role.of name ≠ .plain → Registry.default.canEmit name = true :=
    fun _ h => Registry.canEmit_default.2 (Command.exists_standard_of_role h)
  obtain ⟨tree, hnames⟩ := Lint.exists_tree_of_lint hkeep hlint
  have hshifts : List.Forall₂ (fun role x => x.toBlock.Shifts role)
      (tree.names.map Role.of) emissions := by
    rw [hnames, Lint.keptNames, List.map_map, List.forall₂_map_left_iff]
    refine hemitted.imp ?_
    rintro s x ⟨c, h⟩
    exact Registry.shifts_emit h
  obtain ⟨hplaced, hshift⟩ : Layout.placings 0 emissions = (tree.levels 0).map Int.ofNat ∧
      0 + Layout.shift emissions = 0 :=
    Layout.placings_eq hshifts (Layout.Places.tree 0 tree)
  have hnonneg : ∀ level ∈ Layout.placings 0 emissions, 0 ≤ level := by
    intro level hlevel
    rw [hplaced] at hlevel
    obtain ⟨n, _, rfl⟩ := List.mem_map.1 hlevel
    exact Int.natCast_nonneg n
  refine ⟨emissions, tree, hsteps, hlines, hnames, hplaced, hnonneg, ?_, ?_, ?_⟩
  · rw [Layout.lay, Layout.layFrom_eq_layAt hnonneg, hplaced]
  · simpa using hshift
  · refine hemitted.imp ?_
    rintro s x ⟨c, h⟩
    exact Registry.controlLine_emit h

/-- An `if` with a step that opens a window in one branch and a loop in the other. -/
def branchingTest : TestCase where
  name := "branches"
  commands := [
    { name := "if", script := some ⟨"ready", []⟩ },
    { name := "close", opensWindow := true },
    { name := "else", opensWindow := true },
    { name := "times", target := "2" },
    { name := "//echo" },
    { name := "end" },
    { name := "end" }]

/-- The lines of the test, indented. -/
def branchingLines : List String := [
  "if ((bool) $I->executeJS('return (ready);')) \x7b",
  "    $this->vars['windowHandles'] = $this->windowHandles($I);",
  "    $I->closeTab();",
  "    $this->waitForWindow($I, 2);",
  "$this->vars['windowHandles'] = $this->windowHandles($I);",
  "\x7d else \x7b",
  "$this->waitForWindow($I, 2);",
  "    for ($i = 0; $i < 2; $i++) \x7b",
  "    \x7d",
  "\x7d"]

theorem placings_of_lint_branchingTest :
    ∃ (emissions : List Emission) (tree : Lint.Tree),
      (steps Registry.default false "branches" 1 branchingTest.commands {}).result =
        .ok ⟨emissions, []⟩ ∧
      bodyLines Config.default emissions = .ok branchingLines ∧
      tree.names = (generated Registry.default branchingTest.commands).map (·.name) ∧
      Layout.placings 0 emissions = (tree.levels 0).map Int.ofNat ∧
      Layout.shift emissions = 0 := by
  have hexport : (test Registry.default Config.default branchingTest {}).result =
      .ok ⟨"branches", "branches", branchingLines, []⟩ :=
    toOption_eq_some.1 (by decide +kernel)
  have hlint : ∀ i ∈ Lint.lint none branchingTest, i.problem.severity ≠ .error := by
    decide +kernel
  obtain ⟨emissions, tree, hsteps, hlines, hnames, hplaced, _, _, hshift, _⟩ :=
    placings_of_lint hlint hexport
  exact ⟨emissions, tree, hsteps, hlines, hnames, hplaced, hshift⟩

end CestExport.Export
