import CestExport.Proofs.Export.Position

/-!
# The step that a failure reports

The export of a test fails with a position exactly if one of its steps fails by
itself: in the context that the steps in front of it leave, the registry fails to
generate it, or a strict export misses its command.  The position is that of the
first such step, counted among all steps, and the cause is its own.

    no step fails in front of the n-th  ↔  those in front are generated, and known
      if the export is strict                                       (noneFails_iff)
    test … = .error (.step …)  ↔  its step is the first that fails  (reports_first)
-/

namespace CestExport.Export

open Registry

/-! ## Algorithm -/

section

variable (registry : Registry) (strict : Bool)

/-- Why a step fails in a context: a strict export misses its command, or the registry fails to
generate it. -/
inductive FailsBy (c : Context) (s : Step) : Failure → Prop
  | missed : strict = true → registry.canEmit s.name = false →
    FailsBy c s (.unsupportedCommand s.name)
  | refused {f : Failure} : (registry.emit c s).1 = .error f → FailsBy c s f

/-- The step behind the first `n` ones is active and fails in the context that these leave. -/
structure FailsAt (c : Context) (ss : List Step) (n : Nat) (s : Step) (f : Failure) : Prop where
  step : ss[n]? = some s
  active : s.isActive = true
  fails : FailsBy registry strict (contextBehind registry c (ss.take n)) s f

/-- None of the first `n` steps fails. -/
def NoneFails (c : Context) (ss : List Step) (n : Nat) : Prop :=
  ∀ m < n, ∀ s f, ¬FailsAt registry strict c ss m s f

end

/-! ## One step -/

section Cons

variable {registry : Registry} {strict : Bool} {c : Context} {s t : Step} {ss : List Step}
  {n : Nat} {f : Failure}

theorem known_of_refused (h : (registry.emit c s).1 = .error f) :
    registry.canEmit s.name = true := by
  obtain ⟨e, he, -⟩ := emit_eq_error (Prod.ext h rfl)
  rw [canEmit_eq, he]
  rfl

theorem contextBehind_singleton (registry : Registry) (c : Context) (s : Step) :
    contextBehind registry c [s] =
      if s.isActive && registry.canEmit s.name then (registry.emit c s).2 else c := by
  rw [contextBehind, generated_cons]
  split <;> rfl

theorem contextBehind_cons (registry : Registry) (c : Context) (s : Step) (ss : List Step) :
    contextBehind registry c (s :: ss) =
      contextBehind registry (contextBehind registry c [s]) ss := by
  rw [contextBehind_singleton, contextBehind, generated_cons]
  split <;> rfl

theorem allEmit_cons : AllEmit registry c (s :: ss) ↔
    ((s.isActive && registry.canEmit s.name) = true → ∃ e, (registry.emit c s).1 = .ok e) ∧
      AllEmit registry (contextBehind registry c [s]) ss := by
  rw [contextBehind_singleton, AllEmit, generated_cons]
  cases s.isActive && registry.canEmit s.name with
  | false => simp [AllEmit]
  | true => simp [AllEmit, emitAll]

theorem failsAt_zero : FailsAt registry strict c (s :: ss) 0 t f ↔
    t = s ∧ s.isActive = true ∧ FailsBy registry strict c s f := by
  constructor
  · rintro ⟨hstep, hactive, hfails⟩
    cases hstep
    exact ⟨rfl, hactive, hfails⟩
  · rintro ⟨rfl, hactive, hfails⟩
    exact ⟨rfl, hactive, hfails⟩

theorem failsAt_succ : FailsAt registry strict c (s :: ss) (n + 1) t f ↔
    FailsAt registry strict (contextBehind registry c [s]) ss n t f := by
  constructor
  · rintro ⟨hstep, hactive, hfails⟩
    rw [List.take_succ_cons, contextBehind_cons] at hfails
    exact ⟨hstep, hactive, hfails⟩
  · rintro ⟨hstep, hactive, hfails⟩
    refine ⟨hstep, hactive, ?_⟩
    rwa [List.take_succ_cons, contextBehind_cons]

/-- A step does not fail if it is generated where it is known, and known where it has to be. -/
theorem not_failsBy_iff : (∀ f, ¬FailsBy registry strict c s f) ↔
    (registry.canEmit s.name = true → ∃ e, (registry.emit c s).1 = .ok e) ∧
      (strict = true → registry.canEmit s.name = true) := by
  constructor
  · refine fun hnone => ⟨fun _ => ?_, fun hstrict => ?_⟩
    · cases hemit : (registry.emit c s).1 with
      | error f => exact absurd (.refused hemit) (hnone f)
      | ok e => exact ⟨e, rfl⟩
    · by_contra hunknown
      exact hnone _ (.missed hstrict (Bool.eq_false_iff.2 hunknown))
  · rintro ⟨hemits, hregistered⟩ f hfails
    cases hfails with
    | missed hstrict hunknown =>
      rw [hregistered hstrict] at hunknown
      cases hunknown
    | refused hemit =>
      obtain ⟨e, he⟩ := hemits (known_of_refused hemit)
      rw [hemit] at he
      cases he

theorem noneFails_succ : NoneFails registry strict c (s :: ss) (n + 1) ↔
    (s.isActive = true → ∀ f, ¬FailsBy registry strict c s f) ∧
      NoneFails registry strict (contextBehind registry c [s]) ss n := by
  constructor
  · refine fun h => ⟨fun hactive f hfails => ?_, fun m hm t f hfails => ?_⟩
    · exact h 0 n.succ_pos s f (failsAt_zero.2 ⟨rfl, hactive, hfails⟩)
    · exact h (m + 1) (Nat.succ_lt_succ hm) t f (failsAt_succ.2 hfails)
  · rintro ⟨hhead, htail⟩ m hm t f hfails
    cases m with
    | zero =>
      obtain ⟨-, hactive, hs⟩ := failsAt_zero.1 hfails
      exact hhead hactive f hs
    | succ m => exact htail m (Nat.lt_of_succ_lt_succ hm) t f (failsAt_succ.1 hfails)

end Cons

/-! ## The first step that fails -/

section

variable {registry : Registry} {strict : Bool} {test : String} {c : Context} {ss : List Step}
  {n : Nat} {failure : ExportFailure}

/-- None of some first steps fails if and only if those that are generated do not fail one after the
other, and a strict export knows the commands of all active ones. -/
theorem noneFails_iff : NoneFails registry strict c ss n ↔
    AllEmit registry c (ss.take n) ∧ (strict = true → AllRegistered registry (ss.take n)) := by
  induction ss generalizing c n with
  | nil =>
    refine iff_of_true ?_ (by simp [AllEmit, AllRegistered, generated, emitAll])
    rintro m - s f ⟨hstep, -, -⟩
    cases hstep
  | cons s ss ih =>
    cases n with
    | zero =>
      refine iff_of_true ?_ (by simp [AllEmit, AllRegistered, generated, emitAll])
      exact fun m hm => absurd hm m.not_lt_zero
    | succ n =>
      rw [noneFails_succ, not_failsBy_iff, ih, List.take_succ_cons, allEmit_cons,
        allRegistered_cons]
      cases s.isActive with
      | false => simp
      | true => simp; tauto

theorem reaches_of_failsAt {s : Step} {f : Failure} (h : FailsAt registry strict c ss n s f)
    (hnone : NoneFails registry strict c ss n) :
    Reaches registry strict c ss (ss.take n) s := by
  obtain ⟨hn, hs⟩ := List.getElem?_eq_some_iff.1 h.step
  obtain ⟨hemits, hregistered⟩ := noneFails_iff.1 hnone
  refine ⟨⟨ss.drop (n + 1), ?_⟩, h.active, hemits, hregistered⟩
  rw [← hs, ← List.drop_eq_getElem_cons hn, List.take_append_drop]

/-- A run stops at a step just if the step fails, and it ends in this failure. -/
theorem exists_stopsAt_iff {s : Step} : (∃ c', StopsAt registry strict test n c s failure c') ↔
    ∃ f, FailsBy registry strict c s f ∧ failure = .ofStep test n s f := by
  constructor
  · rintro ⟨c', hstop⟩
    cases hstop with
    | missed hstrict hunknown => exact ⟨_, .missed hstrict hunknown, rfl⟩
    | fails hknown hemit => exact ⟨_, .refused (by rw [hemit]), rfl⟩
  · rintro ⟨f, hfails, rfl⟩
    cases hfails with
    | missed hstrict hunknown => exact ⟨c, .missed hstrict hunknown⟩
    | refused hemit => exact ⟨_, .fails (known_of_refused hemit) (Prod.ext hemit rfl)⟩

/-- A run ends in the failure of the first step that fails, if there is one. -/
theorem steps_eq_error_iff : (steps registry strict test n ss c).result = .error failure ↔
    ∃ m s f, FailsAt registry strict c ss m s f ∧ NoneFails registry strict c ss m ∧
      failure = .ofStep test (n + m) s f := by
  constructor
  · intro h
    obtain ⟨before, s, ⟨⟨after, rfl⟩, hactive, hemits, hregistered⟩, hstop⟩ := exists_stop h
    obtain ⟨f, hfails, hfailure⟩ := exists_stopsAt_iff.1 ⟨_, hstop⟩
    refine ⟨before.length, s, f, ⟨by simp, hactive, ?_⟩, noneFails_iff.2 ?_, hfailure⟩
    · rwa [List.take_left' rfl]
    · rw [List.take_left' rfl]
      exact ⟨hemits, hregistered⟩
  · rintro ⟨m, s, f, hfails, hnone, hfailure⟩
    have hreaches := reaches_of_failsAt hfails hnone
    have hlength : (ss.take m).length = m := by
      have hm := (List.getElem?_eq_some_iff.1 hfails.step).1
      rw [List.length_take, Nat.min_eq_left hm.le]
    obtain ⟨c', hstop⟩ := exists_stopsAt_iff.2 ⟨f, hfails.fails, hfailure⟩
    exact steps_of_stop hreaches (by rwa [hlength])

end

/-! ## Tests -/

theorem ofStep_eq_step_iff {test name command : String} {n position : Nat} {s : Step}
    {f cause : Failure} : ExportFailure.ofStep test n s f = .step name position command cause ↔
      f.kind ≠ .overflow ∧ name = test ∧ position = n ∧ command = s.name ∧ cause = f := by
  constructor
  · intro h
    by_cases hkind : f.kind = .overflow
    · simp [ExportFailure.ofStep, hkind] at h
    · rw [ExportFailure.ofStep_of_ne hkind] at h
      cases h
      exact ⟨hkind, rfl, rfl, rfl, rfl⟩
  · rintro ⟨hkind, rfl, rfl, rfl, rfl⟩
    exact ExportFailure.ofStep_of_ne hkind

/-- A test fails at a step just if it has a name for its method, and its steps fail there. -/
theorem test_eq_step_iff {registry : Registry} {config : Config} {t : TestCase} {c : Context}
    {name command : String} {position : Nat} {cause : Failure} :
    (test registry config t c).result = .error (.step name position command cause) ↔
      (Php.identifier? t.name).isSome = true ∧
      (steps registry config.strict t.name 1 t.commands c).result =
        .error (.step name position command cause) := by
  cases hmethod : Php.identifier? t.name with
  | none => simp [test, hmethod]
  | some method =>
    refine ⟨fun h => ⟨rfl, steps_of_test h⟩, ?_⟩
    rintro ⟨-, hsteps⟩
    simp [test, hmethod, hsteps]

/-- The export of a test gives the position of a step exactly if this is the first step that fails,
counted among all steps, and does not fail for a number that is out of range; then the export gives
its command and its very cause.  That no step in front of it fails means that the ones that are
generated do not fail one after the other, and that a strict export knows the commands of all active
ones. -/
theorem reports_first (registry : Registry) (config : Config) (t : TestCase) (c : Context) :
    (∀ name position command cause,
      (test registry config t c).result = .error (.step name position command cause) ↔
        (Php.identifier? t.name).isSome = true ∧ name = t.name ∧
        ∃ n s, position = n + 1 ∧ command = s.name ∧ cause.kind ≠ .overflow ∧
          FailsAt registry config.strict c t.commands n s cause ∧
          NoneFails registry config.strict c t.commands n) ∧
    ∀ n, NoneFails registry config.strict c t.commands n ↔
      AllEmit registry c (t.commands.take n) ∧
        (config.strict = true → AllRegistered registry (t.commands.take n)) := by
  refine ⟨fun name position command cause => ?_, fun n => noneFails_iff⟩
  rw [test_eq_step_iff, steps_eq_error_iff]
  refine and_congr_right fun _ => ?_
  constructor
  · rintro ⟨n, s, f, hfails, hnone, hfailure⟩
    obtain ⟨hkind, rfl, rfl, rfl, rfl⟩ := ofStep_eq_step_iff.1 hfailure.symm
    exact ⟨rfl, n, s, Nat.add_comm 1 n, rfl, hkind, hfails, hnone⟩
  · rintro ⟨rfl, n, s, rfl, rfl, hkind, hfails, hnone⟩
    refine ⟨n, s, cause, hfails, hnone, (ofStep_eq_step_iff.2 ?_).symm⟩
    exact ⟨hkind, rfl, Nat.add_comm n 1, rfl, rfl⟩

/-- Behind a loop, a disabled step and an empty one, the strict export misses the fourth step; the
lenient one passes it over and stops at the fifth. -/
theorem reports_first_missingTest :
    let strict := { Config.default with strict := true }
    (test default strict missingTest {}).result =
      .error (.step "missing" 4 "teleport" (.unsupportedCommand "teleport")) ∧
    FailsAt default true {} missingTest.commands 3 { name := "teleport" }
      (.unsupportedCommand "teleport") ∧
    AllRegistered default (missingTest.commands.take 3) ∧
    (test default Config.default missingTest {}).result =
      .error (.step "missing" 5 "click" .locatorEmpty) ∧
    FailsAt default false {} missingTest.commands 4 { name := "click" } .locatorEmpty ∧
    AllEmit default {} (missingTest.commands.take 4) := by
  intro strict
  have hstrict : (test default strict missingTest {}).result =
      .error (.step "missing" 4 "teleport" (.unsupportedCommand "teleport")) := by
    decide +kernel
  have hlenient : (test default Config.default missingTest {}).result =
      .error (.step "missing" 5 "click" .locatorEmpty) := by
    decide +kernel
  obtain ⟨-, -, n, s, hn, hs, -, hmissed, hbefore⟩ :=
    ((reports_first default strict missingTest {}).1 _ _ _ _).1 hstrict
  obtain ⟨-, -, m, r, hm, hr, -, hrefused, hfront⟩ :=
    ((reports_first default Config.default missingTest {}).1 _ _ _ _).1 hlenient
  obtain rfl : n = 3 := by omega
  obtain rfl : m = 4 := by omega
  cases hmissed.step
  cases hrefused.step
  exact ⟨hstrict, hmissed, (noneFails_iff.1 hbefore).2 rfl, hlenient, hrefused,
    (noneFails_iff.1 hfront).1⟩

end CestExport.Export
