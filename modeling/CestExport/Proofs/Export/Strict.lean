import CestExport.Proofs.Export.Composition
import CestExport.Proofs.Export.Skipped

/-!
# Strict and lenient exports

A strict export refuses a command that is not registered where a lenient one
passes it over.  That is all the difference there is: if every active step has a
registered command, the two run alike to the end, whatever they end in.

    strict = .ok x   ↔  lenient = .ok x  and  x.skipped = []
    steps … = .error failure  →  it stops at an active step that it comes to    (exists_stop)
-/

namespace CestExport.Export

open Registry

/-! ## Algorithm -/

section

variable (registry : Registry) (strict : Bool) (test : String)

/-- The active steps have commands that are registered. -/
def AllRegistered (ss : List Step) : Prop :=
  ∀ s ∈ ss, s.isActive = true → registry.canEmit s.name = true

/-- The steps that are generated, from a context on and one after the other, do not fail. -/
def AllEmit (c : Context) (ss : List Step) : Prop :=
  ∀ x ∈ registry.emitAll c (generated registry ss), ∃ e, x = .ok e

/-- The context that the generated ones of some steps leave. -/
def contextBehind (c : Context) (ss : List Step) : Context :=
  registry.contextAfter c (generated registry ss)

/-- An active step that a run comes to: the steps in front of it do not fail, and a strict run does
not miss one of them. -/
structure Reaches (c : Context) (ss before : List Step) (s : Step) : Prop where
  split : ∃ after, ss = before ++ s :: after
  active : s.isActive = true
  emits : AllEmit registry c before
  registered : strict = true → AllRegistered registry before

/-- How a run stops at a step: a strict one misses its command, or it fails to be generated.  The
run leaves the context of the failure. -/
inductive StopsAt (n : Nat) (c : Context) (s : Step) : ExportFailure → Context → Prop
  | missed : strict = true → registry.canEmit s.name = false →
    StopsAt n c s (.step test n s.name (.unsupportedCommand s.name)) c
  | fails {f : Failure} {c' : Context} : registry.canEmit s.name = true →
    registry.emit c s = (.error f, c') → StopsAt n c s (.ofStep test n s f) c'

end

/-! ## Lemmas -/

section Prefixes

variable {registry : Registry} {strict : Bool} {c c' : Context} {s t : Step}
  {ss before : List Step} {e : Emission}

theorem allRegistered_iff : AllRegistered registry ss ↔
    Lint.keptNames (fun name => !registry.canEmit name) ss = [] := by
  simp [AllRegistered, Lint.keptNames_eq_nil_iff]

theorem allRegistered_cons : AllRegistered registry (s :: ss) ↔
    (s.isActive = true → registry.canEmit s.name = true) ∧ AllRegistered registry ss :=
  List.forall_mem_cons

theorem contextBehind_of_passed (h : (s.isActive && registry.canEmit s.name) = false) :
    contextBehind registry c (s :: ss) = contextBehind registry c ss := by
  rw [contextBehind, generated_cons, h]
  rfl

theorem contextBehind_of_emit (h : (s.isActive && registry.canEmit s.name) = true)
    (hemit : registry.emit c s = (.ok e, c')) :
    contextBehind registry c (s :: ss) = contextBehind registry c' ss := by
  rw [contextBehind, generated_cons, h, if_pos rfl, Registry.contextAfter, hemit]
  rfl

/-! ## Steps that a run comes to -/

namespace Reaches

theorem head (h : s.isActive = true) : Reaches registry strict c (s :: ss) [] s where
  split := ⟨ss, rfl⟩
  active := h
  emits := by simp [AllEmit, generated, emitAll]
  registered := by simp [AllRegistered]

theorem cons_of_passed (hs : (s.isActive && registry.canEmit s.name) = false)
    (hstrict : strict = true → s.isActive = false) (h : Reaches registry strict c ss before t) :
    Reaches registry strict c (s :: ss) (s :: before) t where
  split := h.split.imp fun _ hafter => congrArg (s :: ·) hafter
  active := h.active
  emits := by
    rw [AllEmit, generated_cons, hs]
    exact h.emits
  registered htrue := allRegistered_cons.2 ⟨by simp [hstrict htrue], h.registered htrue⟩

theorem cons_of_emit (hs : (s.isActive && registry.canEmit s.name) = true)
    (hemit : registry.emit c s = (.ok e, c')) (h : Reaches registry strict c' ss before t) :
    Reaches registry strict c (s :: ss) (s :: before) t where
  split := h.split.imp fun _ hafter => congrArg (s :: ·) hafter
  active := h.active
  emits := by
    rw [AllEmit, generated_cons, hs, if_pos rfl, emitAll, hemit, List.forall_mem_cons]
    exact ⟨⟨e, rfl⟩, h.emits⟩
  registered htrue :=
    allRegistered_cons.2 ⟨fun _ => (Bool.and_eq_true_iff.1 hs).2, h.registered htrue⟩

end Reaches

end Prefixes

/-! ## Runs that agree -/

/-- If all active steps are registered, being strict makes no difference, not even for a failure. -/
theorem steps_of_allRegistered {registry : Registry} {ss : List Step}
    (h : AllRegistered registry ss) (test : String) (n : Nat) (c : Context) :
    steps registry true test n ss c = steps registry false test n ss c := by
  induction ss generalizing n c with
  | nil => rfl
  | cons s rest ih =>
    obtain ⟨hs, hrest⟩ := allRegistered_cons.1 h
    cases hactive : s.isActive with
    | false => rw [steps_of_inactive _ _ _ _ hactive, steps_of_inactive _ _ _ _ hactive, ih hrest]
    | true => simp [steps, hactive, hs hactive, ih hrest]

/-- A strict run that ends well has not missed a command. -/
theorem allRegistered_of_strict {registry : Registry} {test : String} {n : Nat} {ss : List Step}
    {c : Context} {body : Body} (h : (steps registry true test n ss c).result = .ok body) :
    AllRegistered registry ss := by
  induction ss generalizing n c body with
  | nil => simp [AllRegistered]
  | cons s rest ih =>
    rw [allRegistered_cons]
    rcases steps_cons_eq_ok h with ⟨hactive, hrest⟩ | ⟨_, _, hstrict, _⟩ |
      ⟨_, hknown, _, _, _, _, hrest, _⟩
    · exact ⟨by simp [hactive], ih hrest⟩
    · cases hstrict
    · exact ⟨fun _ => hknown, ih hrest⟩

/-! ## Runs that stop -/

/-- All that the first step of a run can be if the run fails: passed over, generated, or the one at
which it stops. -/
theorem steps_cons_eq_error {registry : Registry} {strict : Bool} {test : String} {n : Nat}
    {s : Step} {rest : List Step} {c : Context} {failure : ExportFailure}
    (h : (steps registry strict test n (s :: rest) c).result = .error failure) :
    ((s.isActive && registry.canEmit s.name) = false ∧ (strict = true → s.isActive = false) ∧
      (steps registry strict test (n + 1) rest c).result = .error failure ∧
      (steps registry strict test n (s :: rest) c).context =
        (steps registry strict test (n + 1) rest c).context) ∨
    ((s.isActive && registry.canEmit s.name) = true ∧ ∃ e c', registry.emit c s = (.ok e, c') ∧
      (steps registry strict test (n + 1) rest c').result = .error failure ∧
      (steps registry strict test n (s :: rest) c).context =
        (steps registry strict test (n + 1) rest c').context) ∨
    (s.isActive = true ∧ StopsAt registry strict test n c s failure
      (steps registry strict test n (s :: rest) c).context) := by
  cases hactive : s.isActive with
  | false =>
    rw [steps_of_inactive _ _ _ _ hactive] at h ⊢
    exact .inl ⟨rfl, fun _ => rfl, h, rfl⟩
  | true =>
    cases hknown : registry.canEmit s.name with
    | false =>
      cases strict with
      | true =>
        have hmissed : steps registry true test n (s :: rest) c =
            ⟨.error (.step test n s.name (.unsupportedCommand s.name)), c, []⟩ := by
          simp [steps, hactive, hknown]
        rw [hmissed] at h ⊢
        cases h
        exact .inr (.inr ⟨rfl, .missed rfl hknown⟩)
      | false =>
        obtain ⟨hresult, hcontext⟩ := steps_of_unknown registry test n rest hactive hknown c
        rw [hresult] at h
        exact .inl ⟨rfl, by simp, map_eq_error.1 h, hcontext⟩
    | true =>
      rcases hemit : registry.emit c s with ⟨f | e, c'⟩
      · have hfails : steps registry strict test n (s :: rest) c =
            ⟨.error (.ofStep test n s f), c', newVariables c c'⟩ := by
          simp [steps, hactive, hknown, hemit]
        rw [hfails] at h ⊢
        cases h
        exact .inr (.inr ⟨rfl, .fails hknown hemit⟩)
      · obtain ⟨hresult, hcontext⟩ := steps_of_emit registry test n rest hactive hknown strict hemit
        rw [hresult] at h
        exact .inr (.inl ⟨rfl, e, c', rfl, map_eq_error.1 h, hcontext⟩)

/-- A run that fails stops at a step that it comes to, in the context that the steps in front of it
leave. -/
theorem exists_stop {registry : Registry} {strict : Bool} {test : String} {n : Nat}
    {ss : List Step} {c : Context} {failure : ExportFailure}
    (h : (steps registry strict test n ss c).result = .error failure) :
    ∃ before s, Reaches registry strict c ss before s ∧
      StopsAt registry strict test (n + before.length) (contextBehind registry c before) s failure
        (steps registry strict test n ss c).context := by
  induction ss generalizing n c with
  | nil => cases h
  | cons s rest ih =>
    have hposition : ∀ before : List Step, n + (s :: before).length = n + 1 + before.length := by
      intro before
      rw [List.length_cons]
      omega
    rcases steps_cons_eq_error h with ⟨hpassed, hstrict, hrest, hcontext⟩ |
      ⟨hgenerated, e, c', hemit, hrest, hcontext⟩ | ⟨hactive, hstop⟩
    · obtain ⟨before, t, hreaches, hstop⟩ := ih hrest
      refine ⟨s :: before, t, hreaches.cons_of_passed hpassed hstrict, ?_⟩
      rwa [hposition, contextBehind_of_passed hpassed, hcontext]
    · obtain ⟨before, t, hreaches, hstop⟩ := ih hrest
      refine ⟨s :: before, t, hreaches.cons_of_emit hgenerated hemit, ?_⟩
      rwa [hposition, contextBehind_of_emit hgenerated hemit, hcontext]
    · exact ⟨[], s, .head hactive, hstop⟩

/-- All that the first step in front of one that a run comes to can be: passed over, or generated. -/
theorem Reaches.cons_cases {registry : Registry} {strict : Bool} {b s : Step} {ss before : List Step}
    {c : Context} (h : Reaches registry strict c ss (b :: before) s) : ∃ rest, ss = b :: rest ∧
      (((b.isActive && registry.canEmit b.name) = false ∧ (strict = true → b.isActive = false) ∧
          Reaches registry strict c rest before s) ∨
        ((b.isActive && registry.canEmit b.name) = true ∧
          ∃ e c', registry.emit c b = (.ok e, c') ∧ Reaches registry strict c' rest before s)) := by
  obtain ⟨⟨after, rfl⟩, hactive, hemits, hregistered⟩ := h
  refine ⟨before ++ s :: after, rfl, ?_⟩
  rw [AllEmit, generated_cons] at hemits
  cases hknown : b.isActive && registry.canEmit b.name with
  | false =>
    rw [hknown] at hemits
    refine .inl ⟨rfl, fun hstrict => ?_, ⟨after, rfl⟩, hactive, hemits, fun hstrict => ?_⟩
    · have hb := (allRegistered_cons.1 (hregistered hstrict)).1
      cases hb' : b.isActive with
      | false => rfl
      | true => simp [hb', hb hb'] at hknown
    · exact (allRegistered_cons.1 (hregistered hstrict)).2
  | true =>
    rw [hknown, if_pos rfl, emitAll, List.forall_mem_cons] at hemits
    obtain ⟨⟨e, he⟩, hrest⟩ := hemits
    refine .inr ⟨rfl, e, (registry.emit c b).2, Prod.ext he rfl, ⟨after, rfl⟩, hactive, hrest, ?_⟩
    exact fun hstrict => (allRegistered_cons.1 (hregistered hstrict)).2

/-- A run that comes to a step at which it stops fails there. -/
theorem steps_of_stop {registry : Registry} {strict : Bool} {test : String} {n : Nat}
    {ss before : List Step} {s : Step} {c c' : Context} {failure : ExportFailure}
    (hreaches : Reaches registry strict c ss before s)
    (hstop : StopsAt registry strict test (n + before.length) (contextBehind registry c before) s
      failure c') :
    (steps registry strict test n ss c).result = .error failure := by
  -- by the steps in front of the stop: each is passed over, or emits and hands its context on
  induction before generalizing n ss c with
  | nil =>
    obtain ⟨⟨after, rfl⟩, hactive, -, -⟩ := hreaches
    cases hstop with
    | missed hstrict hunknown => simp [steps, hactive, hunknown, hstrict]
    | fails hknown hemit =>
      have hemit : registry.emit c s = (.error _, c') := hemit
      simp [steps, hactive, hknown, hemit]
  | cons b before ih =>
    obtain ⟨rest, rfl, ⟨hpassed, hstrict, hrest⟩ | ⟨hgenerated, e, c'', hemit, hrest⟩⟩ :=
      hreaches.cons_cases
    · rw [contextBehind_of_passed hpassed, List.length_cons, ← Nat.add_assoc,
        Nat.add_right_comm] at hstop
      have hfails := ih hrest hstop
      cases hactive : b.isActive with
      | false => rwa [steps_of_inactive _ _ _ _ hactive]
      | true =>
        cases strict with
        | true => simp [hactive] at hstrict
        | false =>
          have hunknown : registry.canEmit b.name = false := by simpa [hactive] using hpassed
          rw [(steps_of_unknown registry test n rest hactive hunknown c).1]
          exact map_eq_error.2 hfails
    · rw [contextBehind_of_emit hgenerated hemit, List.length_cons, ← Nat.add_assoc,
        Nat.add_right_comm] at hstop
      obtain ⟨hactive, hknown⟩ := Bool.and_eq_true_iff.1 hgenerated
      rw [(steps_of_emit registry test n rest hactive hknown strict hemit).1]
      exact map_eq_error.2 (ih hrest hstop)

/-! ## Tests -/

/-- If all active steps of a test are registered, its strict export is its lenient one. -/
theorem test_of_allRegistered {registry : Registry} {config : Config} {t : TestCase}
    (h : AllRegistered registry t.commands) (c : Context) :
    test registry { config with strict := true } t c =
      test registry { config with strict := false } t c := by
  unfold test
  simp only [steps_of_allRegistered h]
  rfl

theorem allRegistered_of_skipped {registry : Registry} {config : Config} {t : TestCase}
    {c : Context} {x : ExportedTest}
    (h : (test registry { config with strict := false } t c).result = .ok x)
    (hskipped : x.skipped = []) : AllRegistered registry t.commands := by
  obtain ⟨_, hsteps, _⟩ := test_eq_ok h
  have hnames := skipped_of_steps hsteps
  rw [hskipped] at hnames
  exact allRegistered_iff.2 hnames.symm

/-- No step of the default registry fails as for a command that is not supported. -/
theorem supported_emit {c c' : Context} {s : Step} {f : Failure}
    (h : default.emit c s = (.error f, c')) : f.kind ≠ .unsupported := by
  intro hkind
  -- what fails in this way is a call that was added, and none was
  have hnone : ∀ registry : Registry, registry.registerAll [] = registry := fun _ => rfl
  rw [← hnone default] at h
  obtain ⟨call, hcall, _⟩ := fails_of_emit h hkind
  cases hcall

/-- With the default registry a run that stops for a command that is not supported misses it. -/
theorem StopsAt.of_unsupported {strict : Bool} {test name command : String} {n position : Nat}
    {c c' : Context} {s : Step} {cause : Failure}
    (h : StopsAt default strict test n c s (.step name position command cause) c')
    (hkind : cause.kind = .unsupported) :
    name = test ∧ position = n ∧ command = s.name ∧ cause = .unsupportedCommand s.name ∧
      default.canEmit s.name = false ∧ c' = c := by
  generalize hfailure : ExportFailure.step name position command cause = failure at h
  cases h with
  | missed _ hunknown =>
    cases hfailure
    exact ⟨rfl, rfl, rfl, rfl, hunknown, rfl⟩
  | fails _ hemit =>
    obtain ⟨_, rfl⟩ := step_eq_ofStep hfailure
    exact absurd hkind (supported_emit hemit)

/-- A test that fails at a step leaves the context that its steps leave. -/
theorem context_of_step {registry : Registry} {config : Config} {t : TestCase} {c : Context}
    {name command : String} {position : Nat} {cause : Failure}
    (h : (test registry config t c).result = .error (.step name position command cause)) :
    (test registry config t c).context =
      (steps registry config.strict t.name 1 t.commands c).context := by
  cases hmethod : Php.identifier? t.name with
  | none => simp [test, hmethod] at h
  | some method => exact context_test hmethod

/-- Strict and lenient export of a test agree.  The strict one gives an exported test exactly when
the lenient one gives it and has passed over nothing, and then the two exports leave the same
context and note the same events.  And if the strict one fails for a command that is not supported,
then at the first active step whose command is not registered, with all active steps in front of it
generated one after the other. -/
theorem strict_agrees (config : Config) (t : TestCase) (c : Context) :
    let strict := test default { config with strict := true } t c
    let lenient := test default { config with strict := false } t c
    (∀ x, strict.result = .ok x ↔ lenient.result = .ok x ∧ x.skipped = []) ∧
    (∀ x, strict.result = .ok x → strict = lenient) ∧
    (∀ name position command cause,
      strict.result = .error (.step name position command cause) → cause.kind = .unsupported →
      name = t.name ∧ cause = .unsupportedCommand command ∧
      ∃ before s after, t.commands = before ++ s :: after ∧ position = before.length + 1 ∧
        s.name = command ∧ s.isActive = true ∧ default.canEmit command = false ∧
        AllRegistered default before ∧ AllEmit default c before ∧
        strict.context = contextBehind default c before) := by
  intro strict lenient
  have hsame : ∀ x, strict.result = .ok x → strict = lenient := by
    intro x hstrict
    obtain ⟨_, hsteps, _⟩ := test_eq_ok hstrict
    exact test_of_allRegistered (allRegistered_of_strict hsteps) c
  refine ⟨fun x => ⟨fun hstrict => ?_, ?_⟩, hsame, ?_⟩
  · have hlenient : lenient.result = .ok x := hsame x hstrict ▸ hstrict
    obtain ⟨_, hsteps, _⟩ := test_eq_ok hstrict
    obtain ⟨_, hpassing, _⟩ := test_eq_ok hlenient
    refine ⟨hlenient, ?_⟩
    have hnames := allRegistered_iff.1 (allRegistered_of_strict hsteps)
    exact (skipped_of_steps hpassing).trans hnames
  · rintro ⟨hlenient, hskipped⟩
    have hregistered := allRegistered_of_skipped hlenient hskipped
    exact (congrArg Outcome.result (test_of_allRegistered hregistered c)).trans hlenient
  · intro name position command cause hfails hkind
    obtain ⟨before, s, hreaches, hstop⟩ := exists_stop (steps_of_test hfails)
    obtain ⟨after, hsplit⟩ := hreaches.split
    obtain ⟨rfl, rfl, rfl, rfl, hunknown, hcontext⟩ := hstop.of_unsupported hkind
    refine ⟨rfl, rfl, before, s, after, hsplit, Nat.add_comm _ _, rfl, hreaches.active, hunknown,
      hreaches.registered rfl, hreaches.emits, ?_⟩
    rw [← hcontext]
    exact context_of_step hfails

/-- A command that is missed, behind one that is disabled and in front of a step that fails. -/
def missingTest : TestCase where
  name := "missing"
  commands := [{ name := "times", target := "2" }, { name := "//teleport" }, {},
    { name := "teleport" }, { name := "click" }, { name := "end" }]

/-- The same test without the command and the step. -/
def completeTest : TestCase where
  name := "complete"
  commands := [{ name := "times", target := "2" }, { name := "//teleport" }, {}, { name := "end" }]

/-- Strict, the export stops at the command that it misses, lenient, at the step behind it that
fails; without the two, the exports agree. -/
theorem strict_agrees_missingTest :
    let strict := { Config.default with strict := true }
    (test default strict missingTest {}).result =
      .error (.step "missing" 4 "teleport" (.unsupportedCommand "teleport")) ∧
    (test default Config.default missingTest {}).result =
      .error (.step "missing" 5 "click" .locatorEmpty) ∧
    (∃ before s after, missingTest.commands = before ++ s :: after ∧ 4 = before.length + 1 ∧
      AllRegistered default before ∧ AllEmit default {} before) ∧
    (∃ x, (test default strict completeTest {}).result = .ok x ∧ x.skipped = []) ∧
    test default strict completeTest {} = test default Config.default completeTest {} := by
  intro strict
  have hmissing : (test default strict missingTest {}).result =
      .error (.step "missing" 4 "teleport" (.unsupportedCommand "teleport")) := by
    decide +kernel
  have hlenient : (test default Config.default missingTest {}).result =
      .error (.step "missing" 5 "click" .locatorEmpty) := by
    decide +kernel
  have hcomplete : (test default strict completeTest {}).result =
      .ok ⟨"complete", "complete", ["for ($i = 0; $i < 2; $i++) \x7b", "\x7d"], []⟩ :=
    toOption_eq_some.1 (by decide +kernel)
  obtain ⟨_, _, before, s, after, hsplit, hlength, _, _, _, hregistered, hemits, _⟩ :=
    (strict_agrees Config.default missingTest {}).2.2 _ _ _ _ hmissing rfl
  obtain ⟨hskipped, hsame, _⟩ := strict_agrees Config.default completeTest {}
  exact ⟨hmissing, hlenient, ⟨before, s, after, hsplit, hlength, hregistered, hemits⟩,
    ⟨_, hcomplete, ((hskipped _).1 hcomplete).2⟩, hsame _ hcomplete⟩

end CestExport.Export
