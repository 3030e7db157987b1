import CestExport.Proofs.Lint.Grammar
import CestExport.Proofs.Sorted

/-!
# The commands that the check points out as unsupported

The walk finds its issues in the order of the steps, so sorting does not change the
order of those of one kind.  A step is pointed out as unsupported exactly if it is
active and its command is neither known nor one that generates nothing anyway.

    unsupported (lint (some names) t) =
      keptNames (generable by neither) t.commands                         (unsupported_lint)
-/

namespace CestExport.Lint

/-! ## Algorithm -/

/-- The commands that issues point out as unsupported, in the order of the issues. -/
def unsupported (issues : List Issue) : List String :=
  (issues.filter (·.problem = .unsupported)).map (·.command)

/-- A command that is neither known nor one that generates nothing anyway. -/
def isUnsupported (names : List String) (name : String) : Bool :=
  !dropped.contains name && !names.contains name

/-! ## Kept names -/

/-- No name is kept if and only if every active step has a name to drop. -/
theorem keptNames_eq_nil_iff {keep : String → Bool} {steps : List Step} :
    keptNames keep steps = [] ↔ ∀ s ∈ steps, s.isActive = true → keep s.name = false := by
  simp [keptNames, List.filter_eq_nil_iff]

/-! ## Walks -/

/-- The walk finds its issues in the order of their steps. -/
theorem pairwise_walk (known : Option (List String)) (n : Nat) (steps : List Step)
    (stack : List OpenBlock) :
    (walk known n steps stack).1.Pairwise fun a b => a.position ≤ b.position := by
  induction steps generalizing n stack with
  | nil => exact .nil
  | cons s rest ih =>
    cases hactive : s.isActive with
    | false =>
      rw [walk_of_inactive hactive]
      exact ih (n + 1) stack
    | true =>
      simp only [walk, hactive, Bool.not_true, Bool.false_eq_true, if_false]
      refine List.pairwise_append.2 ⟨?_, ih _ _, ?_⟩
      · rw [List.pairwise_map]
        exact List.pairwise_of_forall fun _ _ => Nat.le_refl n
      · intro a ha b hb
        obtain ⟨p, _, rfl⟩ := List.mem_map.1 ha
        exact Nat.le_of_succ_le (le_position_of_mem_walk hb)

theorem unsupported_append (xs ys : List Issue) :
    unsupported (xs ++ ys) = unsupported xs ++ unsupported ys := by
  simp [unsupported]

/-- The issues of one step point its command out once, if it is unsupported. -/
theorem unsupported_step (names : List String) (n : Nat) (name : String)
    (stack : List OpenBlock) :
    unsupported (((commandProblem? (some names) name).toList ++
        (track n name stack).1.toList).map (⟨n, name, ·⟩)) =
      if isUnsupported names name then [name] else [] := by
  have htrack : unsupported ((track n name stack).1.toList.map (⟨n, name, ·⟩)) = [] := by
    cases hp : (track n name stack).1 with
    | none => rfl
    | some p =>
      have hne : p ≠ .unsupported := by
        rintro rfl
        cases severity_track hp
      simp [unsupported, hne]
  rw [List.map_append, unsupported_append, htrack, List.append_nil]
  unfold commandProblem? isUnsupported
  by_cases hdropped : name ∈ dropped
  · simp [unsupported, hdropped]
  · by_cases hnames : name ∈ names
    · simp [unsupported, hdropped, hnames]
    · simp [unsupported, hdropped, hnames]

theorem unsupported_walk (names : List String) (n : Nat) (steps : List Step)
    (stack : List OpenBlock) :
    unsupported (walk (some names) n steps stack).1 = keptNames (isUnsupported names) steps := by
  induction steps generalizing n stack with
  | nil => rfl
  | cons s rest ih =>
    cases hactive : s.isActive with
    | false =>
      rw [walk_of_inactive hactive, keptNames_cons_of_dropped (by simp [hactive])]
      exact ih (n + 1) stack
    | true =>
      simp only [walk, hactive, Bool.not_true, Bool.false_eq_true, if_false]
      rw [unsupported_append, unsupported_step, ih]
      cases hname : isUnsupported names s.name with
      | true =>
        rw [keptNames_cons_of_kept (by simp [hactive, hname])]
        rfl
      | false =>
        rw [keptNames_cons_of_dropped (by simp [hname])]
        rfl

/-! ## Tests -/

/-- The check points out the unsupported commands of the active steps, each as often as it is
recorded and in the order of the steps. -/
theorem unsupported_lint (names : List String) (t : TestCase) :
    unsupported (lint (some names) t) = keptNames (isUnsupported names) t.commands := by
  have hunclosed : ∀ left : List OpenBlock, (left.reverse.map fun b =>
      (⟨b.position, b.command, .unclosed⟩ : Issue)).filter (·.problem = .unsupported) = [] := by
    intro left
    rw [List.filter_eq_nil_iff]
    intro i hi
    obtain ⟨b, _, rfl⟩ := List.mem_map.1 hi
    simp
  rw [← unsupported_walk names 1 t.commands []]
  simp only [unsupported, lint]
  rw [filter_mergeSort]
  · rw [List.filter_append, hunclosed, List.append_nil]
  · intro a b c hab hbc
    simp only [decide_eq_true_eq] at hab hbc ⊢
    exact Nat.le_trans hab hbc
  · intro a b
    simpa using Nat.le_total a.position b.position
  · rw [List.filter_append, hunclosed, List.append_nil]
    simpa using (pairwise_walk (some names) 1 t.commands []).filter _

/-- Unsupported commands are the only ones that a warning is given for. -/
theorem unsupported_eq_nil_iff {issues : List Issue} :
    unsupported issues = [] ↔ ∀ i ∈ issues, i.problem.severity ≠ .warning := by
  have hwarning : ∀ p : Problem, p = .unsupported ↔ p.severity = .warning := by
    intro p
    cases p <;> simp [Problem.severity]
  simp [unsupported, hwarning]

end CestExport.Lint
