import CestExport.Proofs.Export.Skipped
import CestExport.Proofs.Lint.Unsupported
import CestExport.Proofs.Php.Assignment
import Mathlib.Logic.Function.Basic
import Mathlib.Order.Monotone.Basic

/-!
# Steps that are not active

The export and the check of a test pass over empty and disabled steps.  All that
such steps change is where the others stand: what comes out is what comes out for
the active steps alone, with every position moved to the place of its step.

    test … t c = (test … of the active steps).moved (place t.commands)        (test_moved)
    lint known t = (lint known of the active steps).map (moved (place …))     (lint_moved)
    two tests with the same active steps differ in the places of these alone
                                                             (inactive_invisible)
-/

namespace CestExport

/-! ## Algorithm -/

/-- The steps that are active. -/
def activeSteps (ss : List Step) : List Step :=
  ss.filter (·.isActive)

/-- A test without its inactive steps. -/
def TestCase.active (t : TestCase) : TestCase :=
  { t with commands := activeSteps t.commands }

/-- The index of an active step among all steps, by its index among the active ones. -/
def activeIndex : List Step → Nat → Nat
  | [], k => k
  | s :: ss, k =>
    if s.isActive then
      match k with
      | 0 => 0
      | k + 1 => activeIndex ss k + 1
    else activeIndex ss k + 1

/-- The position of an active step among all steps, by its position among the active ones. -/
def place (ss : List Step) : Nat → Nat
  | 0 => 0
  | k + 1 => activeIndex ss k + 1

/-- An active step that stands at a position, counted from one among all steps. -/
structure ActiveAt (ss : List Step) (n : Nat) (s : Step) : Prop where
  pos : 0 < n
  step : ss[n - 1]? = some s
  active : s.isActive = true

/-- A step without a command, or with one that is commented out, whatever else it holds. -/
def Step.IsVoid (s : Step) : Prop :=
  s.name = "" ∨ "//".toList <+: s.name.toList

/-- Steps that come of others when void ones are put in or taken out, anywhere. -/
inductive Padded (ss : List Step) : List Step → Prop
  | refl : Padded ss ss
  | insert {before after : List Step} {s : Step} : s.IsVoid →
    Padded ss (before ++ after) → Padded ss (before ++ s :: after)
  | remove {before after : List Step} {s : Step} : s.IsVoid →
    Padded ss (before ++ s :: after) → Padded ss (before ++ after)

/-- Positions that move with their steps, which keep their order. -/
structure Renumbers (ρ : Nat → Nat) (ss ss' : List Step) : Prop where
  same : ∀ n s, ActiveAt ss n s → ActiveAt ss' (ρ n) s
  onto : ∀ n' s, ActiveAt ss' n' s → ∃ n, ActiveAt ss n s ∧ ρ n = n'
  ordered : ∀ m n s r, ActiveAt ss m s → ActiveAt ss n r → m < n → ρ m < ρ n

/-! ### Positions in what comes out -/

section Moved

variable (ρ : Nat → Nat)

/-- A failure with its position moved. -/
def ExportFailure.moved : ExportFailure → ExportFailure
  | step test position command cause => step test (ρ position) command cause
  | f => f

/-- An event with its position moved. -/
def Event.moved : Event → Event
  | stepSkipped test position command => stepSkipped test (ρ position) command
  | e => e

/-- An outcome with all positions moved. -/
def Outcome.moved {α : Type} (o : Outcome ExportFailure α) : Outcome ExportFailure α where
  result := o.result.mapError (·.moved ρ)
  context := o.context
  events := o.events.map (·.moved ρ)

namespace Lint

/-- An open block with the position of its step moved. -/
def OpenBlock.moved (b : OpenBlock) : OpenBlock :=
  { b with position := ρ b.position }

/-- A problem with the position in its text moved. -/
def Problem.moved : Problem → Problem
  | outsideIf b => outsideIf (b.moved ρ)
  | repeatWithoutDo b => repeatWithoutDo (b.moved ρ)
  | endOfDo b => endOfDo (b.moved ρ)
  | p => p

/-- An issue with all positions moved. -/
def Issue.moved (i : Issue) : Issue :=
  ⟨ρ i.position, i.command, i.problem.moved ρ⟩

end Lint

end Moved

/-! ## Places -/

section Places

variable {s : Step} {ss : List Step}

theorem activeSteps_of_inactive (h : s.isActive = false) (ss : List Step) :
    activeSteps (s :: ss) = activeSteps ss := by
  simp [activeSteps, h]

theorem activeSteps_of_active (h : s.isActive = true) (ss : List Step) :
    activeSteps (s :: ss) = s :: activeSteps ss := by
  simp [activeSteps, h]

theorem activeIndex_of_inactive (h : s.isActive = false) (ss : List Step) (k : Nat) :
    activeIndex (s :: ss) k = activeIndex ss k + 1 := by
  simp [activeIndex, h]

theorem activeIndex_zero (h : s.isActive = true) (ss : List Step) :
    activeIndex (s :: ss) 0 = 0 := by
  simp [activeIndex, h]

theorem activeIndex_succ (h : s.isActive = true) (ss : List Step) (k : Nat) :
    activeIndex (s :: ss) (k + 1) = activeIndex ss k + 1 := by
  simp [activeIndex, h]

theorem isActive_eq_false_iff : s.isActive = false ↔ s.IsVoid := by
  have hdisabled : s.isDisabled = true ↔ "//".toList <+: s.name.toList := Php.beginsWith_iff
  rw [Step.IsVoid, ← hdisabled, Step.isActive]
  simp [or_iff_not_imp_left]

theorem activeSteps_append_cons (h : s.IsVoid) (before after : List Step) :
    activeSteps (before ++ s :: after) = activeSteps (before ++ after) := by
  simp [activeSteps, isActive_eq_false_iff.2 h]

/-- Putting in void steps, or taking them out, does not change which steps are active. -/
theorem activeSteps_of_padded {ss' : List Step} (h : Padded ss ss') :
    activeSteps ss' = activeSteps ss := by
  induction h with
  | refl => rfl
  | insert hs _ ih => rw [activeSteps_append_cons hs, ih]
  | remove hs _ ih => rw [← ih, activeSteps_append_cons hs]

theorem activeIndex_lt_succ (ss : List Step) (k : Nat) :
    activeIndex ss k < activeIndex ss (k + 1) := by
  induction ss generalizing k with
  | nil => exact k.lt_succ_self
  | cons s ss ih =>
    cases hactive : s.isActive with
    | false =>
      rw [activeIndex_of_inactive hactive, activeIndex_of_inactive hactive]
      exact Nat.succ_lt_succ (ih k)
    | true =>
      rw [activeIndex_succ hactive]
      cases k with
      | zero =>
        rw [activeIndex_zero hactive]
        exact Nat.succ_pos _
      | succ k =>
        rw [activeIndex_succ hactive]
        exact Nat.succ_lt_succ (ih k)

theorem strictMono_place (ss : List Step) : StrictMono (place ss) := by
  refine strictMono_nat_of_lt_succ fun k => ?_
  cases k with
  | zero => exact Nat.succ_pos _
  | succ k => exact Nat.succ_lt_succ (activeIndex_lt_succ ss k)

theorem place_one_add (ss : List Step) (k : Nat) : place ss (1 + k) = 1 + activeIndex ss k := by
  rw [Nat.add_comm 1 k, Nat.add_comm 1]
  rfl

theorem getElem?_activeIndex {k : Nat} (h : (activeSteps ss)[k]? = some s) :
    ss[activeIndex ss k]? = some s := by
  induction ss generalizing k with
  | nil => exact absurd h (by simp [activeSteps])
  | cons r ss ih =>
    cases hactive : r.isActive with
    | false =>
      rw [activeSteps_of_inactive hactive] at h
      rw [activeIndex_of_inactive hactive]
      exact ih h
    | true =>
      rw [activeSteps_of_active hactive] at h
      cases k with
      | zero =>
        rw [activeIndex_zero hactive]
        exact h
      | succ k =>
        rw [activeIndex_succ hactive]
        exact ih h

/-- Every active step is one of the active steps. -/
theorem exists_activeIndex {i : Nat} (h : ss[i]? = some s) (hs : s.isActive = true) :
    ∃ k, (activeSteps ss)[k]? = some s ∧ activeIndex ss k = i := by
  induction ss generalizing i with
  | nil => cases h
  | cons r ss ih =>
    cases i with
    | zero =>
      cases h
      exact ⟨0, by rw [activeSteps_of_active hs]; rfl, activeIndex_zero hs ss⟩
    | succ i =>
      obtain ⟨k, hk, hindex⟩ := ih h
      cases hactive : r.isActive with
      | false =>
        refine ⟨k, ?_, ?_⟩
        · rwa [activeSteps_of_inactive hactive]
        · rw [activeIndex_of_inactive hactive, hindex]
      | true =>
        refine ⟨k + 1, ?_, ?_⟩
        · rwa [activeSteps_of_active hactive]
        · rw [activeIndex_succ hactive, hindex]

/-- The places of the active steps are the positions where they stand. -/
theorem activeAt_iff {n : Nat} :
    ActiveAt ss n s ↔ ∃ k, (activeSteps ss)[k]? = some s ∧ place ss (k + 1) = n := by
  constructor
  · rintro ⟨hpos, hstep, hactive⟩
    obtain ⟨k, hk, hindex⟩ := exists_activeIndex hstep hactive
    exact ⟨k, hk, by rw [place, hindex, Nat.sub_add_cancel hpos]⟩
  · rintro ⟨k, hk, rfl⟩
    have hmem : s ∈ activeSteps ss := List.mem_of_getElem? hk
    exact ⟨Nat.succ_pos _, getElem?_activeIndex hk, (List.mem_filter.1 hmem).2⟩

section

variable {ρ : Nat → Nat} {m n : Nat} (h : ∀ k, ρ (m + k) = n + activeIndex (s :: ss) k)

include h

/-- Behind an inactive step the active ones stand one further on. -/
theorem step_inactive (hs : s.isActive = false) (k : Nat) :
    ρ (m + k) = n + 1 + activeIndex ss k := by
  rw [h, activeIndex_of_inactive hs]
  omega

/-- An active step stands at its position, and those behind it at theirs. -/
theorem step_active (hs : s.isActive = true) :
    ρ m = n ∧ ∀ k, ρ (m + 1 + k) = n + 1 + activeIndex ss k := by
  constructor
  · simpa [activeIndex_zero hs] using h 0
  · intro k
    have hk := h (k + 1)
    rw [activeIndex_succ hs] at hk
    rw [show m + 1 + k = m + (k + 1) by omega, hk]
    omega

end

/-- Places of the same active steps correspond to each other. -/
theorem renumbers_of_place {ss' : List Step} {ρ : Nat → Nat}
    (hactive : activeSteps ss' = activeSteps ss) (h : ∀ p, ρ (place ss p) = place ss' p) :
    Renumbers ρ ss ss' where
  same n s hs := by
    obtain ⟨k, hk, rfl⟩ := activeAt_iff.1 hs
    exact activeAt_iff.2 ⟨k, hactive ▸ hk, (h _).symm⟩
  onto n' s hs := by
    obtain ⟨k, hk, rfl⟩ := activeAt_iff.1 hs
    exact ⟨_, activeAt_iff.2 ⟨k, hactive ▸ hk, rfl⟩, h _⟩
  ordered m n s r hs hr hlt := by
    obtain ⟨j, -, rfl⟩ := activeAt_iff.1 hs
    obtain ⟨k, -, rfl⟩ := activeAt_iff.1 hr
    rw [h, h]
    exact strictMono_place ss' ((strictMono_place ss).lt_iff_lt.1 hlt)

end Places

/-! ## Moving twice -/

section

variable (ρ σ : Nat → Nat)

theorem ExportFailure.moved_moved (f : ExportFailure) : (f.moved ρ).moved σ = f.moved (σ ∘ ρ) := by
  cases f <;> rfl

theorem Event.moved_moved (e : Event) : (e.moved ρ).moved σ = e.moved (σ ∘ ρ) := by
  cases e <;> rfl

theorem Outcome.moved_moved {α : Type} (o : Outcome ExportFailure α) :
    (o.moved ρ).moved σ = o.moved (σ ∘ ρ) := by
  obtain ⟨result, context, events⟩ := o
  have hevents : (events.map (·.moved ρ)).map (·.moved σ) = events.map (·.moved (σ ∘ ρ)) := by
    simp [Event.moved_moved]
  cases result with
  | error f => simp only [moved, mapError_error, ExportFailure.moved_moved, hevents]
  | ok a => simp only [moved, mapError_ok, hevents]

namespace Lint

theorem Problem.moved_moved (p : Problem) : (p.moved ρ).moved σ = p.moved (σ ∘ ρ) := by
  cases p <;> rfl

theorem Issue.moved_moved (i : Issue) : (i.moved ρ).moved σ = i.moved (σ ∘ ρ) := by
  simp only [moved, Problem.moved_moved, Function.comp_apply]

end Lint

end

/-! ## Exports -/

namespace Export

section

variable {ρ : Nat → Nat} {registry : Registry} {strict : Bool} {test : String}

theorem moved_ofStep (ρ : Nat → Nat) (test : String) (n : Nat) (s : Step) (f : Failure) :
    (ExportFailure.ofStep test n s f).moved ρ = .ofStep test (ρ n) s f := by
  unfold ExportFailure.ofStep
  split <;> rfl

/-- Notes on variables have no positions. -/
theorem moved_newVariables (ρ : Nat → Nat) (c c' : Context) :
    (newVariables c c').map (·.moved ρ) = newVariables c c' := by
  simp [newVariables, Event.moved, Function.comp_def]

/-- A run over steps from a position on is the run over the active ones, if their positions in the
one correspond to those in the other. -/
theorem steps_moved (ss : List Step) (m n : Nat) (c : Context)
    (h : ∀ k, ρ (m + k) = n + activeIndex ss k) :
    steps registry strict test n ss c =
      (steps registry strict test m (activeSteps ss) c).moved ρ := by
  -- an inactive step moves the position in the one run, an active step those in both
  induction ss generalizing m n c with
  | nil => rfl
  | cons s ss ih =>
    cases hactive : s.isActive with
    | false =>
      rw [steps_of_inactive _ _ _ _ hactive, activeSteps_of_inactive hactive]
      exact ih m (n + 1) c (step_inactive h hactive)
    | true =>
      obtain ⟨hhere, hbehind⟩ := step_active h hactive
      rw [activeSteps_of_active hactive]
      have hrest := fun c => ih (m + 1) (n + 1) c hbehind
      cases hknown : registry.canEmit s.name with
      | false =>
        cases strict with
        | true =>
          simp [steps, hactive, hknown, Outcome.moved, mapError_error, ExportFailure.moved, hhere]
        | false =>
          simp [steps, hactive, hknown, hrest, Outcome.moved, Event.moved, hhere, mapError_map]
      | true =>
        cases hemit : registry.emit c s with
        | mk result c' =>
          cases result with
          | error f =>
            simp [steps, hactive, hknown, hemit, Outcome.moved, mapError_error, moved_ofStep,
              moved_newVariables, hhere]
          | ok e =>
            simp [steps, hactive, hknown, hemit, hrest, Outcome.moved, moved_newVariables,
              mapError_map]

end

/-- The export of a test is that of its active steps, with all positions moved to their places. -/
theorem test_moved (registry : Registry) (config : Config) (t : TestCase) (c : Context) :
    test registry config t c = (test registry config t.active c).moved (place t.commands) := by
  have hsteps : steps registry config.strict t.name 1 t.commands c =
      (steps registry config.strict t.name 1 (activeSteps t.commands) c).moved
        (place t.commands) :=
    steps_moved t.commands 1 1 c (place_one_add t.commands)
  simp only [test, TestCase.active, hsteps]
  cases Php.identifier? t.name with
  | none => rfl
  | some method =>
    obtain ⟨result, c', events⟩ :=
      steps registry config.strict t.name 1 (activeSteps t.commands) c
    cases result with
    | error f => rfl
    | ok body =>
      cases hlines : bodyLines config body.emissions with
      | error f =>
        obtain rfl := bodyLines_eq_error hlines
        simp [Outcome.moved, mapError_ok, mapError_error, hlines, ExportFailure.moved]
      | ok lines => simp [Outcome.moved, mapError_ok, hlines, Event.moved]

end Export

/-! ## Checks -/

namespace Lint

section

variable {ρ : Nat → Nat}

theorem branch_moved (name : String) (stack : List OpenBlock) :
    branch name (stack.map (·.moved ρ)) =
      ((branch name stack).1.map (·.moved ρ), (branch name stack).2.map (·.moved ρ)) := by
  cases stack with
  | nil => rfl
  | cons b bs =>
    simp only [List.map_cons, branch, OpenBlock.moved]
    split
    next => rfl
    next => split <;> rfl

theorem closer_moved (name : String) (stack : List OpenBlock) :
    closer name (stack.map (·.moved ρ)) =
      ((closer name stack).1.map (·.moved ρ), (closer name stack).2.map (·.moved ρ)) := by
  cases stack with
  | nil => rfl
  | cons b bs =>
    simp only [List.map_cons, closer, OpenBlock.moved]
    split
    next => rfl
    next => split <;> rfl

/-- The blocks of moved steps open, branch and close alike. -/
theorem track_moved (m : Nat) (name : String) (stack : List OpenBlock) :
    track (ρ m) name (stack.map (·.moved ρ)) =
      ((track m name stack).1.map (·.moved ρ), (track m name stack).2.map (·.moved ρ)) := by
  unfold track
  split
  next => rfl
  next =>
    split
    next => exact branch_moved name stack
    next =>
      split
      next => exact closer_moved name stack
      next => rfl

/-- What is wrong with a command by itself has no position. -/
theorem moved_commandProblem? (ρ : Nat → Nat) (known : Option (List String)) (name : String) :
    (commandProblem? known name).map (·.moved ρ) = commandProblem? known name := by
  unfold commandProblem?
  split
  next => rfl
  next =>
    split
    next => split <;> rfl
    next => rfl

/-- The issues of a moved step are its issues, moved. -/
theorem found_moved (known : Option (List String)) (m : Nat) (name : String)
    (problem : Option Problem) :
    ((commandProblem? known name).toList ++ (problem.map (·.moved ρ)).toList).map
        (⟨ρ m, name, ·⟩) =
      (((commandProblem? known name).toList ++ problem.toList).map (⟨m, name, ·⟩)).map
        (Issue.moved ρ) := by
  cases hcommand : commandProblem? known name with
  | none => cases problem <;> rfl
  | some p =>
    have hp : p.moved ρ = p := by
      simpa [hcommand] using moved_commandProblem? ρ known name
    cases problem <;> simp [Issue.moved, hp]

/-- A walk over steps from a position on is the walk over the active ones, if their positions in the
one correspond to those in the other. -/
theorem walk_moved (known : Option (List String)) (ss : List Step) (m n : Nat)
    (stack : List OpenBlock) (h : ∀ k, ρ (m + k) = n + activeIndex ss k) :
    walk known n ss (stack.map (·.moved ρ)) =
      ((walk known m (activeSteps ss) stack).1.map (·.moved ρ),
        (walk known m (activeSteps ss) stack).2.map (·.moved ρ)) := by
  induction ss generalizing m n stack with
  | nil => rfl
  | cons s ss ih =>
    cases hactive : s.isActive with
    | false =>
      rw [walk_of_inactive hactive, activeSteps_of_inactive hactive]
      exact ih m (n + 1) stack (step_inactive h hactive)
    | true =>
      obtain ⟨rfl, hbehind⟩ := step_active h hactive
      rw [activeSteps_of_active hactive]
      simp only [walk, hactive, Bool.not_true, Bool.false_eq_true, if_false, track_moved,
        ih (m + 1) _ _ hbehind]
      rw [found_moved]
      simp only [List.map_append]

/-- The check of a test is that of its active steps, with all positions moved to their places. -/
theorem lint_moved (known : Option (List String)) (t : TestCase) :
    lint known t = (lint known t.active).map (·.moved (place t.commands)) := by
  have hwalk := walk_moved known t.commands 1 1 [] (place_one_add t.commands)
  rw [List.map_nil] at hwalk
  -- the places are strictly increasing, so the sort meets the same comparisons
  have hmono : ∀ p q, place t.commands p ≤ place t.commands q ↔ p ≤ q :=
    fun p q => (strictMono_place t.commands).le_iff_le
  unfold lint
  rw [hwalk, List.map_mergeSort (s := fun a b => decide (a.position ≤ b.position))]
  · simp [TestCase.active, Issue.moved, OpenBlock.moved, Problem.moved, Function.comp_def]
  · intro a _ b _
    simp [Issue.moved, hmono]

end

end Lint

/-! ## Tests with the same active steps -/

/-- Inactive steps are invisible.  Two tests of one name that differ in such steps alone, wherever
these are put in or taken out, have the same outcome when they are exported, with every registry, all
settings and from each context, and the same issues in the same order when they are checked; except
that all positions move with their steps. -/
theorem inactive_invisible {t t' : TestCase} (hname : t'.name = t.name)
    (hpadded : Padded t.commands t'.commands) :
    ∃ ρ, Renumbers ρ t.commands t'.commands ∧
      (∀ registry config c,
        Export.test registry config t' c = (Export.test registry config t c).moved ρ) ∧
      ∀ known, Lint.lint known t' = (Lint.lint known t).map (·.moved ρ) := by
  have hactive := activeSteps_of_padded hpadded
  -- from the places in the one test back to the active steps, and on to those in the other
  let ρ := Function.extend (place t.commands) (place t'.commands) id
  have hplace : ∀ p, ρ (place t.commands p) = place t'.commands p :=
    fun p => (strictMono_place t.commands).injective.extend_apply _ _ p
  have hcomp : ρ ∘ place t.commands = place t'.commands := funext hplace
  refine ⟨ρ, renumbers_of_place hactive hplace, fun registry config c => ?_, fun known => ?_⟩
  · have hsame : Export.test registry config t'.active c =
        Export.test registry config t.active c := by
      simp only [Export.test, TestCase.active, hname, hactive]
    rw [Export.test_moved registry config t', Export.test_moved registry config t,
      Outcome.moved_moved, hcomp, hsame]
  · have hsame : Lint.lint known t'.active = Lint.lint known t.active := by
      simp only [Lint.lint, TestCase.active, hactive]
    rw [Lint.lint_moved known t', Lint.lint_moved known t, List.map_map, hsame]
    refine List.map_congr_left fun i _ => ?_
    rw [Function.comp_apply, Lint.Issue.moved_moved, hcomp]

/-- A loop that is closed as a `do` would be, and a click without a target. -/
def mismatchedTest : TestCase where
  name := "mismatched"
  commands := [{ name := "while", target := "x" }, { name := "repeatIf" }, { name := "click" }]

/-- The same with an empty step in front, and one commented out between the others. -/
def paddedTest : TestCase where
  name := "mismatched"
  commands := [{ name := "" }, { name := "while", target := "x" }, { name := "//pause" },
    { name := "repeatIf" }, { name := "click" }]

/-- The failure moves from the third step to the fifth, and the block that an issue tells of from the
first to the second. -/
theorem inactive_invisible_paddedTest :
    paddedTest.name = mismatchedTest.name ∧
    Padded mismatchedTest.commands paddedTest.commands ∧
    ∃ ρ, Renumbers ρ mismatchedTest.commands paddedTest.commands ∧ ρ 1 = 2 ∧ ρ 3 = 5 ∧
      (Export.test Registry.default Config.default mismatchedTest {}).result =
        .error (.step "mismatched" 3 "click" .locatorEmpty) ∧
      (Export.test Registry.default Config.default paddedTest {}).result =
        .error (.step "mismatched" 5 "click" .locatorEmpty) ∧
      Lint.lint none mismatchedTest = [⟨2, "repeatIf", .repeatWithoutDo ⟨"while", 1, false⟩⟩] ∧
      Lint.lint none paddedTest = [⟨4, "repeatIf", .repeatWithoutDo ⟨"while", 2, false⟩⟩] := by
  have hpadded : Padded mismatchedTest.commands paddedTest.commands :=
    @Padded.insert _ [] _ _ (.inl rfl) (@Padded.insert _ [_] _ _ (.inr (by decide)) .refl)
  have hplain : (Export.test Registry.default Config.default mismatchedTest {}).result =
      .error (.step "mismatched" 3 "click" .locatorEmpty) := by
    decide +kernel
  have hlater : (Export.test Registry.default Config.default paddedTest {}).result =
      .error (.step "mismatched" 5 "click" .locatorEmpty) := by
    decide +kernel
  have hissue : Lint.lint none mismatchedTest =
      [⟨2, "repeatIf", .repeatWithoutDo ⟨"while", 1, false⟩⟩] := by
    decide +kernel
  have hmoved : Lint.lint none paddedTest =
      [⟨4, "repeatIf", .repeatWithoutDo ⟨"while", 2, false⟩⟩] := by
    decide +kernel
  have hname : paddedTest.name = mismatchedTest.name := rfl
  obtain ⟨ρ, hρ, htest, hlint⟩ := inactive_invisible hname hpadded
  have hstep := congrArg Outcome.result (htest Registry.default Config.default {})
  have hblock := hlint none
  rw [hlater, Outcome.moved, hplain, mapError_error] at hstep
  rw [hmoved, hissue] at hblock
  injection hstep with hstep
  injection hstep with _ hthird
  injection hblock with hblock
  injection hblock with _ _ hblock
  injection hblock with hblock
  injection hblock with _ hfirst
  exact ⟨hname, hpadded, ρ, hρ, hfirst.symm, hthird.symm, hplain, hlater, hissue, hmoved⟩

end CestExport
