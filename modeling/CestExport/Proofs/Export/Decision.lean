import CestExport.Proofs.Export.Project

/-!
# When a project is exported, and why it is not

The tests of a project are exported one after the other, each in the context that
those in front of it leave.  All of them are exported if each is by itself and
their names are new; otherwise the first test for which one of the two fails
decides, and its own failure goes before a clash of its name.

    tests … = .ok es     ↔  Exports …                             (exists_tests_eq_ok)
    tests … = .error f   ↔  FirstFailure … f                         (tests_eq_error)
    project … = .error f ↔  a key, the class or a test is the first to fail
                                                                  (project_decides)
-/

namespace CestExport.Export

/-! ## Algorithm -/

section

variable (registry : Registry) (config : Config)

/-- The context that tests leave when they are exported one after the other. -/
def contextAfter (c : Context) (ts : List TestCase) : Context :=
  ts.foldl (fun c t => (test registry config t c).context) c

/-- The names of the methods that tests become. -/
def methodNames (ts : List TestCase) : List String :=
  ts.filterMap fun t => Php.identifier? t.name

/-- The names that are taken before the first test. -/
def helperNames : List String :=
  (Window.helperMethods (testerName config)).map (·.name)

/-- Every test is exported in the context that those in front of it leave. -/
def EachExports (c : Context) (ts : List TestCase) : Prop :=
  ∀ (k : Nat) (t : TestCase), ts[k]? = some t →
    ∃ x, (test registry config t (contextAfter registry config c (ts.take k))).result = .ok x

/-- Tests that are exported one after the other, and become methods with different names that are
not taken. -/
structure Exports (taken : List String) (c : Context) (ts : List TestCase) : Prop where
  each : EachExports registry config c ts
  different : (methodNames ts).Nodup
  fresh : ∀ name ∈ methodNames ts, name ∉ taken

/-- The failures by which a run of tests can end: at a test whose predecessors are exported, its own
failure, or else that its name is taken, be it from the beginning or by one of them. -/
inductive FirstFailure (taken : List String) (c : Context) (ts : List TestCase) :
    ExportFailure → Prop
  | own {k : Nat} {t : TestCase} {f : ExportFailure} :
    ts[k]? = some t → Exports registry config taken c (ts.take k) →
    (test registry config t (contextAfter registry config c (ts.take k))).result = .error f →
    FirstFailure taken c ts f
  | clash {k : Nat} {t : TestCase} {x : ExportedTest} :
    ts[k]? = some t → Exports registry config taken c (ts.take k) →
    (test registry config t (contextAfter registry config c (ts.take k))).result = .ok x →
    x.methodName ∈ methodNames (ts.take k) ∨ x.methodName ∈ taken →
    FirstFailure taken c ts (.duplicateMethod x.methodName t.name)

/-- The tests that are selected: all without keys, or else for each key the first test with this id
or name. -/
def Selects (p : Project) (keys : List String) (ts : List TestCase) : Prop :=
  (keys = [] ∧ ts = p.tests) ∨ (keys ≠ [] ∧ keys.map p.findTest? = ts.map some)

/-- The first test with a key as id or name, or the failure to find one. -/
def found (p : Project) (key : String) : Except ExportFailure TestCase :=
  match p.findTest? key with
  | some t => .ok t
  | none => .error (.unknownTest key)

/-- A project whose class has a name. -/
def NamesClass (p : Project) : Prop :=
  ∃ c ∈ (Php.pascalCase p.name ++ config.classSuffix).toList, Php.isNameChar c = true

/-- The failures by which the export of a project can end: the first key that is unknown, the name
of the class, or the first failure of the selected tests. -/
inductive ProjectFailure (p : Project) (keys : List String) : ExportFailure → Prop
  | unknownTest {before : List String} {key : String} {after : List String} :
    keys = before ++ key :: after → (∀ k ∈ before, ∃ t, p.findTest? k = some t) →
    p.findTest? key = none → ProjectFailure p keys (.unknownTest key)
  | className {ts : List TestCase} : Selects p keys ts → ¬NamesClass config p →
    ProjectFailure p keys (.className (Php.pascalCase p.name ++ config.classSuffix))
  | tests {ts : List TestCase} {f : ExportFailure} : Selects p keys ts → NamesClass config p →
    FirstFailure registry config (helperNames config) (start config (some p)) ts f →
    ProjectFailure p keys f

end

/-! ## One test after another -/

section

variable {registry : Registry} {config : Config} {taken : List String} {c : Context}
  {t : TestCase} {ts : List TestCase} {x : ExportedTest}

theorem tests_cons_of_error {f : ExportFailure} (h : (test registry config t c).result = .error f) :
    (tests registry config taken (t :: ts) c).result = .error f := by
  simp [tests, h]

theorem tests_cons_of_mem (h : (test registry config t c).result = .ok x)
    (htaken : x.methodName ∈ taken) :
    (tests registry config taken (t :: ts) c).result =
      .error (.duplicateMethod x.methodName t.name) := by
  simp [tests, h, htaken]

theorem tests_cons_of_new (h : (test registry config t c).result = .ok x)
    (hnew : x.methodName ∉ taken) :
    (tests registry config taken (t :: ts) c).result =
      (tests registry config (x.methodName :: taken) ts
        (test registry config t c).context).result.map (x :: ·) := by
  simp [tests, h, hnew]

theorem methodNames_cons (h : (test registry config t c).result = .ok x) :
    methodNames (t :: ts) = x.methodName :: methodNames ts := by
  rw [methodNames, List.filterMap_cons, methodName_of_test h]
  rfl

theorem eachExports_cons :
    EachExports registry config c (t :: ts) ↔
      (∃ x, (test registry config t c).result = .ok x) ∧
      EachExports registry config (test registry config t c).context ts := by
  constructor
  · intro h
    refine ⟨h 0 t rfl, fun k u hu => ?_⟩
    exact h (k + 1) u hu
  · rintro ⟨hfirst, hrest⟩ k u hu
    cases k with
    | zero =>
      obtain rfl : t = u := Option.some.inj hu
      exact hfirst
    | succ k => exact hrest k u hu

/-- Tests behind one that is exported under a new name: its name is taken for them. -/
theorem exports_cons (h : (test registry config t c).result = .ok x) :
    Exports registry config taken c (t :: ts) ↔ x.methodName ∉ taken ∧
      Exports registry config (x.methodName :: taken) (test registry config t c).context ts := by
  have hnames : methodNames (t :: ts) = x.methodName :: methodNames ts := methodNames_cons h
  constructor
  · rintro ⟨heach, hdifferent, hfresh⟩
    rw [hnames] at hdifferent hfresh
    obtain ⟨hhead, htail⟩ := List.nodup_cons.1 hdifferent
    obtain ⟨hnew, hrest⟩ := List.forall_mem_cons.1 hfresh
    refine ⟨hnew, (eachExports_cons.1 heach).2, htail, fun name hname hmem => ?_⟩
    rcases List.mem_cons.1 hmem with rfl | hmem
    · exact hhead hname
    · exact hrest name hname hmem
  · rintro ⟨hnew, heach, hdifferent, hfresh⟩
    refine ⟨eachExports_cons.2 ⟨⟨x, h⟩, heach⟩, ?_, ?_⟩
    · rw [hnames, List.nodup_cons]
      exact ⟨fun hmem => hfresh _ hmem List.mem_cons_self, hdifferent⟩
    · rw [hnames, List.forall_mem_cons]
      exact ⟨hnew, fun name hname hmem => hfresh name hname (List.mem_cons_of_mem _ hmem)⟩

theorem exports_nil : Exports registry config taken c [] := by
  refine ⟨fun k u hu => ?_, List.nodup_nil, fun name hname => ?_⟩
  · cases hu
  · cases hname

/-- The first failure behind a test that is exported under a new name. -/
theorem FirstFailure.cons {f : ExportFailure} (h : (test registry config t c).result = .ok x)
    (hnew : x.methodName ∉ taken)
    (hrest : FirstFailure registry config (x.methodName :: taken)
      (test registry config t c).context ts f) :
    FirstFailure registry config taken c (t :: ts) f := by
  cases hrest with
  | @own k u _ hu hbefore hfails =>
    exact .own (k := k + 1) hu ((exports_cons h).2 ⟨hnew, hbefore⟩) hfails
  | @clash k u y hu hbefore hy hmem =>
    refine .clash (k := k + 1) hu ((exports_cons h).2 ⟨hnew, hbefore⟩) hy ?_
    rw [List.take_succ_cons, methodNames_cons h, List.mem_cons]
    rcases hmem with hmem | hmem
    · exact .inl (.inr hmem)
    · exact (List.mem_cons.1 hmem).imp .inl id

theorem not_firstFailure_nil {f : ExportFailure} :
    ¬FirstFailure registry config taken c [] f := by
  rintro (⟨ht, _, _⟩ | ⟨ht, _, _, _⟩)
  · cases ht
  · cases ht

/-- Where the first failure of a run can be: at the first test, or behind it if that one is exported
under a new name. -/
theorem FirstFailure.cases_cons {f : ExportFailure}
    (h : FirstFailure registry config taken c (t :: ts) f) :
    (test registry config t c).result = .error f ∨
    (∃ x, (test registry config t c).result = .ok x ∧ x.methodName ∈ taken ∧
      f = .duplicateMethod x.methodName t.name) ∨
    ∃ x, (test registry config t c).result = .ok x ∧ x.methodName ∉ taken ∧
      FirstFailure registry config (x.methodName :: taken) (test registry config t c).context ts
        f := by
  cases h with
  | @own k u _ hu hbefore hfails =>
    cases k with
    | zero =>
      obtain rfl : t = u := Option.some.inj hu
      exact .inl hfails
    | succ k =>
      obtain ⟨x, hx⟩ := (eachExports_cons.1 hbefore.each).1
      obtain ⟨hnew, hrest⟩ := (exports_cons hx).1 hbefore
      exact .inr (.inr ⟨x, hx, hnew, .own hu hrest hfails⟩)
  | @clash k u y hu hbefore hy hmem =>
    cases k with
    | zero =>
      obtain rfl : t = u := Option.some.inj hu
      refine .inr (.inl ⟨y, hy, ?_, rfl⟩)
      rcases hmem with hmem | hmem
      · cases hmem
      · exact hmem
    | succ k =>
      obtain ⟨x, hx⟩ := (eachExports_cons.1 hbefore.each).1
      obtain ⟨hnew, hrest⟩ := (exports_cons hx).1 hbefore
      refine .inr (.inr ⟨x, hx, hnew, .clash hu hrest hy ?_⟩)
      rw [List.take_succ_cons, methodNames_cons hx, List.mem_cons] at hmem
      rw [List.mem_cons]
      -- the name of the first test is among those taken from here on
      rcases hmem with (hmem | hmem) | hmem
      · exact .inr (.inl hmem)
      · exact .inl hmem
      · exact .inr (.inr hmem)

end

/-! ## Whole runs -/

section

variable {registry : Registry} {config : Config} {taken : List String} {c : Context}
  {ts : List TestCase}

/-- Tests that are exported one after the other under new names make a run that succeeds. -/
theorem exists_tests_of_exports (h : Exports registry config taken c ts) :
    ∃ es, (tests registry config taken ts c).result = .ok es := by
  induction ts generalizing taken c with
  | nil => exact ⟨[], rfl⟩
  | cons t ts ih =>
    obtain ⟨x, hx⟩ := (eachExports_cons.1 h.each).1
    obtain ⟨hnew, hrest⟩ := (exports_cons hx).1 h
    obtain ⟨es, hes⟩ := ih hrest
    refine ⟨x :: es, ?_⟩
    rw [tests_cons_of_new hx hnew, hes]
    rfl

/-- A run fails with its first failure. -/
theorem tests_of_firstFailure {f : ExportFailure}
    (h : FirstFailure registry config taken c ts f) :
    (tests registry config taken ts c).result = .error f := by
  induction ts generalizing taken c with
  | nil => exact absurd h not_firstFailure_nil
  | cons t ts ih =>
    rcases h.cases_cons with hown | ⟨x, hx, hmem, rfl⟩ | ⟨x, hx, hnew, hrest⟩
    · exact tests_cons_of_error hown
    · exact tests_cons_of_mem hx hmem
    · rw [tests_cons_of_new hx hnew, ih hrest]
      rfl

/-- There is no third way for a run. -/
theorem exports_or_firstFailure (registry : Registry) (config : Config) (taken : List String)
    (c : Context) (ts : List TestCase) :
    Exports registry config taken c ts ∨ ∃ f, FirstFailure registry config taken c ts f := by
  induction ts generalizing taken c with
  | nil => exact .inl exports_nil
  | cons t ts ih =>
    cases ht : (test registry config t c).result with
    | error f => exact .inr ⟨f, .own (k := 0) rfl exports_nil ht⟩
    | ok x =>
      by_cases hmem : x.methodName ∈ taken
      · exact .inr ⟨_, .clash (k := 0) rfl exports_nil ht (.inr hmem)⟩
      · rcases ih (x.methodName :: taken) (test registry config t c).context with hrest | ⟨f, hf⟩
        · exact .inl ((exports_cons ht).2 ⟨hmem, hrest⟩)
        · exact .inr ⟨f, hf.cons ht hmem⟩

theorem exists_tests_eq_ok :
    (∃ es, (tests registry config taken ts c).result = .ok es) ↔
      Exports registry config taken c ts := by
  constructor
  · rintro ⟨es, hes⟩
    refine (exports_or_firstFailure registry config taken c ts).resolve_right ?_
    rintro ⟨f, hf⟩
    rw [tests_of_firstFailure hf] at hes
    cases hes
  · exact exists_tests_of_exports

theorem tests_eq_error {f : ExportFailure} :
    (tests registry config taken ts c).result = .error f ↔
      FirstFailure registry config taken c ts f := by
  constructor
  · intro hf
    rcases exports_or_firstFailure registry config taken c ts with h | ⟨g, hg⟩
    · obtain ⟨es, hes⟩ := exists_tests_of_exports h
      rw [hes] at hf
      cases hf
    · rw [tests_of_firstFailure hg] at hf
      cases hf
      exact hg
  · exact tests_of_firstFailure

/-- A run that succeeds gives its tests in order, each as it is exported in the context that those
in front of it leave. -/
theorem getElem?_of_tests {es : List ExportedTest}
    (h : (tests registry config taken ts c).result = .ok es) {k : Nat} {t : TestCase}
    (ht : ts[k]? = some t) : ∃ x, es[k]? = some x ∧
      (test registry config t (contextAfter registry config c (ts.take k))).result = .ok x := by
  induction ts generalizing taken c es k with
  | nil => cases ht
  | cons u us ih =>
    obtain ⟨x, rest, hx, _, hrest, rfl⟩ := tests_cons_eq_ok h
    cases k with
    | zero =>
      obtain rfl : u = t := Option.some.inj ht
      exact ⟨x, rfl, hx⟩
    | succ k => exact ih hrest ht

end

/-! ## Projects -/

section

variable {config : Config} {p : Project} {keys : List String} {ts : List TestCase}

theorem found_eq_ok {key : String} {t : TestCase} :
    found p key = .ok t ↔ p.findTest? key = some t := by
  unfold found
  cases p.findTest? key <;> simp

theorem found_eq_error {key : String} {f : ExportFailure} :
    found p key = .error f ↔ p.findTest? key = none ∧ f = .unknownTest key := by
  unfold found
  cases p.findTest? key <;> simp [eq_comm]

theorem select_of_ne_nil (h : keys ≠ []) : select p keys = keys.mapM (found p) := by
  have hkeys : keys.isEmpty = false := by simpa using h
  rw [select, hkeys]
  rfl

theorem map_found_eq_map_ok :
    keys.map (found p) = ts.map .ok ↔ keys.map p.findTest? = ts.map some := by
  induction keys generalizing ts with
  | nil => cases ts <;> simp
  | cons key keys ih =>
    cases ts with
    | nil => simp
    | cons t ts =>
      simp only [List.map_cons, List.cons.injEq]
      rw [found_eq_ok, ih]

theorem select_eq_ok : select p keys = .ok ts ↔ Selects p keys ts := by
  unfold Selects
  by_cases hkeys : keys = []
  · subst hkeys
    constructor
    · intro h
      exact .inl ⟨rfl, (Except.ok.inj h).symm⟩
    · rintro (⟨_, rfl⟩ | ⟨hne, _⟩)
      · rfl
      · exact absurd rfl hne
  · rw [select_of_ne_nil hkeys, mapM_eq_ok, map_found_eq_map_ok]
    constructor
    · intro h
      exact .inr ⟨hkeys, h⟩
    · rintro (⟨hnil, _⟩ | ⟨_, h⟩)
      · exact absurd hnil hkeys
      · exact h

/-- Selecting fails with the first key that is unknown. -/
theorem select_eq_error {f : ExportFailure} : select p keys = .error f ↔
    ∃ before key after, keys = before ++ key :: after ∧
      (∀ k ∈ before, ∃ t, p.findTest? k = some t) ∧ p.findTest? key = none ∧
      f = .unknownTest key := by
  by_cases hkeys : keys = []
  · subst hkeys
    constructor
    · intro h
      cases h
    · rintro ⟨before, key, after, hsplit, _⟩
      simp at hsplit
  · rw [select_of_ne_nil hkeys, mapM_eq_error]
    simp only [found_eq_ok, found_eq_error]

theorem className?_eq_none :
    Php.className? p.name config.classSuffix = none ↔ ¬NamesClass config p := by
  rw [Php.className?, Php.identifier?_eq_none, Php.nameChars, List.filter_eq_nil_iff]
  constructor
  · rintro h ⟨c, hc, hname⟩
    exact h c hc hname
  · intro h c hc hname
    exact h ⟨c, hc, hname⟩

/-- The plan of an export fails with an unknown key, or else with the name of the class. -/
theorem plan_eq_error {f : ExportFailure} : plan config p keys = .error f ↔
    select p keys = .error f ∨ (∃ ts, select p keys = .ok ts) ∧ ¬NamesClass config p ∧
      f = .className (Php.pascalCase p.name ++ config.classSuffix) := by
  rw [plan, bind_eq_error]
  refine or_congr_right ?_
  rw [← className?_eq_none]
  cases Php.className? p.name config.classSuffix <;> simp [eq_comm]

theorem exists_plan_eq_ok :
    (∃ name, plan config p keys = .ok (ts, name)) ↔ select p keys = .ok ts ∧
      NamesClass config p := by
  have hname : Php.className? p.name config.classSuffix ≠ none ↔ NamesClass config p :=
    (not_congr className?_eq_none).trans not_not
  rw [← hname]
  constructor
  · rintro ⟨name, h⟩
    refine ⟨plan_eq_ok h, fun hnone => ?_⟩
    have hfails := plan_eq_error.2 (.inr ⟨⟨ts, plan_eq_ok h⟩, className?_eq_none.1 hnone, rfl⟩)
    rw [h] at hfails
    cases hfails
  · rintro ⟨hselect, hsome⟩
    obtain ⟨name, hclass⟩ := Option.ne_none_iff_exists'.1 hsome
    refine ⟨name, ?_⟩
    rw [plan, hselect, hclass]
    rfl

end

section

variable {registry : Registry} {config : Config} {p : Project} {keys : List String}

theorem project_of_plan_error {f : ExportFailure} (h : plan config p keys = .error f) :
    (project registry config p keys).result = .error f := by
  simp [project, h]

/-- An export whose plan is made fails if and only if its tests do. -/
theorem project_of_plan (registry : Registry) {ts : List TestCase} {name : String}
    (h : plan config p keys = .ok (ts, name)) :
    match (tests registry config (helperNames config) ts (start config (some p))).result with
    | .error f => (project registry config p keys).result = .error f
    | .ok es => ∃ e, (project registry config p keys).result = .ok e ∧ e.tests = es := by
  unfold project
  simp only [h]
  split
  next f hf =>
    rw [helperNames] at hf
    simp only [hf]
  next es hes =>
    rw [helperNames] at hes
    simp only [hes]
    exact ⟨_, rfl, rfl⟩

/-- The helper methods have different names, so new names for the tests make all names differ. -/
theorem exports_helperNames {c : Context} {ts : List TestCase} :
    Exports registry config (helperNames config) c ts ↔
      EachExports registry config c ts ∧ (plannedNames config ts).Nodup := by
  have hhelpers : (helperNames config).Nodup := by
    show ["findElement", "findElements", "windowHandles", "waitForWindow"].Nodup
    decide
  have hplanned : plannedNames config ts = methodNames ts ++ helperNames config := rfl
  rw [hplanned, List.nodup_append]
  constructor
  · rintro ⟨heach, hdifferent, hfresh⟩
    refine ⟨heach, hdifferent, hhelpers, ?_⟩
    rintro a ha b hb rfl
    exact hfresh a ha hb
  · rintro ⟨heach, hdifferent, _, hfresh⟩
    exact ⟨heach, hdifferent, fun name hname hmem => hfresh name hname name hmem rfl⟩

theorem exists_project_eq_ok : (∃ e, (project registry config p keys).result = .ok e) ↔
    ∃ ts, Selects p keys ts ∧ NamesClass config p ∧
      Exports registry config (helperNames config) (start config (some p)) ts := by
  constructor
  · rintro ⟨e, he⟩
    obtain ⟨ts, hselect, htests, _⟩ := project_eq_ok he
    have hnamed : NamesClass config p := by
      by_contra hunnamed
      have hplan := plan_eq_error.2 (.inr ⟨⟨ts, hselect⟩, hunnamed, rfl⟩)
      rw [project_of_plan_error hplan] at he
      cases he
    exact ⟨ts, select_eq_ok.1 hselect, hnamed, exists_tests_eq_ok.1 ⟨e.tests, htests⟩⟩
  · rintro ⟨ts, hselects, hnamed, hexports⟩
    obtain ⟨name, hplan⟩ := exists_plan_eq_ok.2 ⟨select_eq_ok.2 hselects, hnamed⟩
    obtain ⟨es, hes⟩ := exists_tests_eq_ok.2 hexports
    have hproject := project_of_plan registry hplan
    rw [hes] at hproject
    obtain ⟨e, he, _⟩ := hproject
    exact ⟨e, he⟩

theorem project_eq_error {f : ExportFailure} :
    (project registry config p keys).result = .error f ↔
      ProjectFailure registry config p keys f := by
  constructor
  · intro hf
    cases hplan : plan config p keys with
    | error g =>
      rw [project_of_plan_error hplan] at hf
      cases hf
      rcases plan_eq_error.1 hplan with hselect | ⟨⟨ts, hselect⟩, hunnamed, rfl⟩
      · obtain ⟨before, key, after, hkeys, hbefore, hkey, rfl⟩ := select_eq_error.1 hselect
        exact .unknownTest hkeys hbefore hkey
      · exact .className (select_eq_ok.1 hselect) hunnamed
    | ok planned =>
      obtain ⟨ts, name⟩ := planned
      obtain ⟨hselect, hnamed⟩ := exists_plan_eq_ok.1 ⟨name, hplan⟩
      have hproject := project_of_plan registry hplan
      split at hproject
      next g hg =>
        rw [hproject] at hf
        cases hf
        exact .tests (select_eq_ok.1 hselect) hnamed (tests_eq_error.1 hg)
      next es _ =>
        obtain ⟨e, he, _⟩ := hproject
        rw [he] at hf
        cases hf
  · intro h
    cases h with
    | unknownTest hkeys hbefore hkey =>
      have hselect := select_eq_error.2 ⟨_, _, _, hkeys, hbefore, hkey, rfl⟩
      exact project_of_plan_error (plan_eq_error.2 (.inl hselect))
    | className hselects hunnamed =>
      have hselect := select_eq_ok.2 hselects
      exact project_of_plan_error (plan_eq_error.2 (.inr ⟨⟨_, hselect⟩, hunnamed, rfl⟩))
    | tests hselects hnamed hfirst =>
      obtain ⟨name, hplan⟩ := exists_plan_eq_ok.2 ⟨select_eq_ok.2 hselects, hnamed⟩
      have hproject := project_of_plan registry hplan
      rw [tests_eq_error.2 hfirst] at hproject
      exact hproject

end

/-- A project is exported if and only if every key is known, its class has a name, every selected
test is exported in the context that those in front of it leave, and the names of all methods
differ; then the tests of the class are the selected ones in order.  Otherwise it fails with the
first thing that is wrong: the first unknown key, the name of the class, or the first test that is
not exported or whose name is taken. -/
theorem project_decides (registry : Registry) (config : Config) (p : Project)
    (keys : List String) :
    ((∃ e, (project registry config p keys).result = .ok e) ↔
      ∃ ts, Selects p keys ts ∧ NamesClass config p ∧
        EachExports registry config (start config (some p)) ts ∧
        (plannedNames config ts).Nodup) ∧
    (∀ e, (project registry config p keys).result = .ok e →
      ∃ ts, Selects p keys ts ∧ e.tests.length = ts.length ∧
        ∀ (k : Nat) (t : TestCase), ts[k]? = some t → ∃ x, e.tests[k]? = some x ∧
          (test registry config t (contextAfter registry config (start config (some p))
            (ts.take k))).result = .ok x) ∧
    ∀ f, (project registry config p keys).result = .error f ↔
      ProjectFailure registry config p keys f := by
  refine ⟨?_, ?_, fun f => project_eq_error⟩
  · rw [exists_project_eq_ok]
    simp only [exports_helperNames]
  · intro e he
    obtain ⟨ts, hselect, htests, _⟩ := project_eq_ok he
    refine ⟨ts, select_eq_ok.1 hselect, length_tests htests, fun k t ht => ?_⟩
    exact getElem?_of_tests htests ht

end CestExport.Export
