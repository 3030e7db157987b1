import CestExport.Lint
import CestExport.Proofs.Command.Role

/-!
# The blocks of a test that passes the check

A test whose blocks are closed is a tree: a sequence of plain steps and blocks,
each block with a sequence inside, and an `if` with branches.  When the check
finds no error, the open blocks and the steps still to come spell such a tree.

    no error in walk, nothing left open  →  the steps finish the open blocks  (finishes_of_walk)
    no error in lint                     →  the names are those of a tree  (exists_tree_of_lint)
-/

namespace CestExport.Lint

/-! ## Algorithm -/

/-- The blocks without branches that `end` closes. -/
def loops : List String := ["while", "forEach", "times"]

mutual

/-- A sequence of steps in which every block is closed. -/
inductive Tree
  | nil
  | plain (name : String) (h : Role.of name = .plain) (rest : Tree)
  | conditional (body : Tree) (branches : Branches) (rest : Tree)
  | loop (name : String) (h : name ∈ loops) (body rest : Tree)
  | doLoop (body rest : Tree)

/-- The branches of an `if`, up to its `else`. -/
inductive Branches
  | nil
  | elseIf (body : Tree) (rest : Branches)
  | otherwise (body : Tree)

end

mutual

/-- The commands of a tree, in order. -/
def Tree.names : Tree → List String
  | .nil => []
  | .plain name _ rest => name :: rest.names
  | .conditional body branches rest =>
    "if" :: (body.names ++ (branches.names ++ "end" :: rest.names))
  | .loop name _ body rest => name :: (body.names ++ "end" :: rest.names)
  | .doLoop body rest => "do" :: (body.names ++ "repeatIf" :: rest.names)

/-- The commands of branches, in order. -/
def Branches.names : Branches → List String
  | .nil => []
  | .elseIf body rest => "elseIf" :: (body.names ++ rest.names)
  | .otherwise body => "else" :: body.names

end

mutual

/-- For each command of a tree, how many blocks are open around its line; the lines of a block's
branches and of its end stand outside the block, as the one that opens it does. -/
def Tree.levels (depth : Nat) : Tree → List Nat
  | .nil => []
  | .plain _ _ rest => depth :: rest.levels depth
  | .conditional body branches rest =>
    depth :: (body.levels (depth + 1) ++ (branches.levels depth ++ depth :: rest.levels depth))
  | .loop _ _ body rest => depth :: (body.levels (depth + 1) ++ depth :: rest.levels depth)
  | .doLoop body rest => depth :: (body.levels (depth + 1) ++ depth :: rest.levels depth)

/-- For each command of branches, how many blocks are open around its line. -/
def Branches.levels (depth : Nat) : Branches → List Nat
  | .nil => []
  | .elseIf body rest => depth :: (body.levels (depth + 1) ++ rest.levels depth)
  | .otherwise body => depth :: body.levels (depth + 1)

end

/-- The command that closes a block. -/
def OpenBlock.closer (b : OpenBlock) : String :=
  if b.command = "do" then "repeatIf" else "end"

/-- Whether more branches may follow in a block. -/
def OpenBlock.branches (b : OpenBlock) : Prop :=
  b.command = "if" ∧ b.sawElse = false

/-- Commands that close the open blocks, from the innermost on: first the branches that are left to
it, then its closer and the steps behind it, and so on. -/
inductive Ends : List OpenBlock → List String → Prop
  | nil : Ends [] []
  | cons {b : OpenBlock} {bs : List OpenBlock} {names : List String} (branches : Branches)
    (rest : Tree) : (branches = .nil ∨ b.branches) → Ends bs names →
    Ends (b :: bs) (branches.names ++ b.closer :: (rest.names ++ names))

/-- Commands that finish the innermost sequence of steps and then close the open blocks. -/
def Finishes (stack : List OpenBlock) (names : List String) : Prop :=
  ∃ (t : Tree) (rest : List String), names = t.names ++ rest ∧ Ends stack rest

/-- The names of the active steps that are kept. -/
def keptNames (keep : String → Bool) (steps : List Step) : List String :=
  (steps.filter fun s => s.isActive && keep s.name).map (·.name)

/-! ## Lemmas -/

theorem Ends.exists_of_cons {b : OpenBlock} {bs : List OpenBlock} {names : List String}
    (h : Ends (b :: bs) names) : ∃ (branches : Branches) (behind : Tree) (rest : List String),
      (branches = .nil ∨ b.branches) ∧ Ends bs rest ∧
      names = branches.names ++ b.closer :: (behind.names ++ rest) := by
  cases h with
  | cons branches behind hbranches hends => exact ⟨branches, behind, _, hbranches, hends, rfl⟩

theorem Finishes.plain {stack : List OpenBlock} {names : List String} {name : String}
    (hname : Role.of name = .plain) (h : Finishes stack names) :
    Finishes stack (name :: names) := by
  obtain ⟨t, rest, rfl, hends⟩ := h
  exact ⟨.plain name hname t, rest, rfl, hends⟩

/-- An opener takes what closes its block with it. -/
theorem Finishes.opener {stack : List OpenBlock} {names : List String} {name : String}
    (hname : name ∈ openers) (position : Nat)
    (h : Finishes (⟨name, position, false⟩ :: stack) names) : Finishes stack (name :: names) := by
  obtain ⟨body, rest, rfl, hends⟩ := h
  obtain ⟨branches, behind, rest, hbranches, hbehind, rfl⟩ := hends.exists_of_cons
  -- only an `if` can have branches
  have hnil : name ≠ "if" → branches = .nil := by
    intro hif
    rcases hbranches with rfl | hb
    · rfl
    · exact absurd hb.1 hif
  by_cases hif : name = "if"
  · subst hif
    exact ⟨.conditional body branches behind, _, by simp [Tree.names, OpenBlock.closer], hbehind⟩
  · obtain rfl := hnil hif
    by_cases hdo : name = "do"
    · subst hdo
      refine ⟨.doLoop body behind, _, ?_, hbehind⟩
      simp [Tree.names, Branches.names, OpenBlock.closer]
    · have hloop : name ∈ loops := by
        simpa [openers, loops, hif, hdo] using hname
      refine ⟨.loop name hloop body behind, _, ?_, hbehind⟩
      simp [Tree.names, Branches.names, OpenBlock.closer, hdo]

theorem Finishes.elseIf {b : OpenBlock} {bs : List OpenBlock} {names : List String}
    (hb : b.branches) (h : Finishes ({ b with sawElse := false } :: bs) names) :
    Finishes (b :: bs) ("elseIf" :: names) := by
  obtain ⟨body, rest, rfl, hends⟩ := h
  obtain ⟨branches, behind, rest, _, hbehind, rfl⟩ := hends.exists_of_cons
  refine ⟨.nil, _, rfl, ?_⟩
  have := Ends.cons (.elseIf body branches) behind (.inr hb) hbehind
  simpa [Branches.names, Tree.names, OpenBlock.closer] using this

/-- Behind an `else` no branch is left. -/
theorem Finishes.otherwise {b : OpenBlock} {bs : List OpenBlock} {names : List String}
    (hb : b.branches) (h : Finishes ({ b with sawElse := true } :: bs) names) :
    Finishes (b :: bs) ("else" :: names) := by
  obtain ⟨body, rest, rfl, hends⟩ := h
  obtain ⟨branches, behind, rest, hbranches, hbehind, rfl⟩ := hends.exists_of_cons
  have hnil : branches = .nil := by
    rcases hbranches with rfl | hsaw
    · rfl
    · exact absurd hsaw.2 (by simp)
  subst hnil
  refine ⟨.nil, _, rfl, ?_⟩
  have := Ends.cons (.otherwise body) behind (.inr hb) hbehind
  simpa [Branches.names, Tree.names, OpenBlock.closer] using this

theorem Finishes.closer {b : OpenBlock} {bs : List OpenBlock} {names : List String}
    (h : Finishes bs names) : Finishes (b :: bs) (b.closer :: names) := by
  obtain ⟨t, rest, rfl, hends⟩ := h
  exact ⟨.nil, _, rfl, .cons .nil t (.inl rfl) hends⟩

/-! ## Steps -/

theorem finishes_of_branch {name : String} (hname : name = "elseIf" ∨ name = "else")
    {stack stack' : List OpenBlock} {names : List String}
    (h : branch name stack = (none, stack')) (hf : Finishes stack' names) :
    Finishes stack (name :: names) := by
  unfold branch at h
  split at h
  next => simp at h
  next b bs =>
    split at h
    next => simp at h
    next hif =>
      split at h
      next => simp at h
      next hsaw =>
        have hb : b.branches := ⟨by simpa using hif, by simpa using hsaw⟩
        cases h
        rcases hname with rfl | rfl
        · exact hf.elseIf hb
        · exact hf.otherwise hb

theorem finishes_of_closer {name : String} (hname : name = "end" ∨ name = "repeatIf")
    {stack stack' : List OpenBlock} {names : List String}
    (h : closer name stack = (none, stack')) (hf : Finishes stack' names) :
    Finishes stack (name :: names) := by
  unfold closer at h
  split at h
  next => simp at h
  next b bs =>
    split at h
    next => simp at h
    next hrepeat =>
      split at h
      next => simp at h
      next hend =>
        have hcloser : name = b.closer := by
          unfold OpenBlock.closer
          rcases hname with rfl | rfl <;> split <;> simp_all
        cases h
        rw [hcloser]
        exact hf.closer

/-- A step that leaves no problem can be put in front. -/
theorem finishes_of_track {position : Nat} {name : String} {stack stack' : List OpenBlock}
    {names : List String} (h : track position name stack = (none, stack'))
    (hf : Finishes stack' names) : Finishes stack (name :: names) := by
  unfold track at h
  split at h
  next ho =>
    cases h
    exact hf.opener (by simpa using ho) position
  next ho =>
    split at h
    next hb => exact finishes_of_branch (by simpa using hb) h hf
    next hb =>
      split at h
      next hc => exact finishes_of_closer (by simpa using hc) h hf
      next hc =>
        cases h
        refine hf.plain ?_
        rw [Role.of, if_neg ho, if_neg hb, if_neg hc]

theorem track_of_plain {name : String} (h : Role.of name = .plain) (position : Nat)
    (stack : List OpenBlock) : track position name stack = (none, stack) := by
  unfold Role.of at h
  unfold track
  split at h
  next => simp at h
  next ho =>
    split at h
    next => simp at h
    next hb =>
      split at h
      next => simp at h
      next hc => rw [if_neg ho, if_neg hb, if_neg hc]

/-- Whatever is wrong with the blocks is an error. -/
theorem severity_track {position : Nat} {name : String} {stack : List OpenBlock} {p : Problem}
    (h : (track position name stack).1 = some p) : p.severity = .error := by
  unfold track branch closer at h
  repeat' split at h
  all_goals first | (cases h; rfl) | simp at h

/-! ## Tests -/

theorem keptNames_cons_of_kept {keep : String → Bool} {s : Step}
    (h : (s.isActive && keep s.name) = true) (steps : List Step) :
    keptNames keep (s :: steps) = s.name :: keptNames keep steps := by
  simp [keptNames, h]

theorem keptNames_cons_of_dropped {keep : String → Bool} {s : Step}
    (h : (s.isActive && keep s.name) = false) (steps : List Step) :
    keptNames keep (s :: steps) = keptNames keep steps := by
  simp [keptNames, h]

/-- When the check finds no error from some open blocks on and closes them all, the steps finish
these blocks; steps that are not kept must not open, continue or close a block. -/
theorem finishes_of_walk {keep : String → Bool}
    (hkeep : ∀ name, Role.of name ≠ .plain → keep name = true) {known : Option (List String)}
    {steps : List Step} {n : Nat} {stack : List OpenBlock}
    (hissues : ∀ i ∈ (walk known n steps stack).1, i.problem.severity ≠ .error)
    (hleft : (walk known n steps stack).2 = []) : Finishes stack (keptNames keep steps) := by
  induction steps generalizing n stack with
  | nil =>
    obtain rfl : stack = [] := hleft
    exact ⟨.nil, [], rfl, .nil⟩
  | cons s rest ih =>
    cases hactive : s.isActive with
    | false =>
      rw [keptNames_cons_of_dropped (by simp [hactive])]
      simp only [walk, hactive, Bool.not_false, if_true] at hissues hleft
      exact ih hissues hleft
    | true =>
      obtain ⟨problem, stack', htrack⟩ : ∃ p st, track n s.name stack = (p, st) := ⟨_, _, rfl⟩
      simp only [walk, hactive, htrack, Bool.not_true, Bool.false_eq_true, if_false,
        List.forall_mem_append] at hissues hleft
      have hnone : problem = none := by
        cases hp : problem with
        | none => rfl
        | some p =>
          refine absurd (severity_track (by rw [htrack, hp])) (hissues.1 ⟨n, s.name, p⟩ ?_)
          simp [hp]
      subst hnone
      have hrest := ih hissues.2 hleft
      cases hk : keep s.name with
      | true =>
        rw [keptNames_cons_of_kept (by simp [hactive, hk])]
        exact finishes_of_track htrack hrest
      | false =>
        rw [keptNames_cons_of_dropped (by simp [hk])]
        have hplain : Role.of s.name = .plain := by
          refine Decidable.byContradiction fun h => ?_
          rw [hkeep s.name h] at hk
          simp at hk
        rw [track_of_plain hplain] at htrack
        cases htrack
        exact hrest

theorem walk_of_lint {known : Option (List String)} {t : TestCase}
    (h : ∀ i ∈ lint known t, i.problem.severity ≠ .error) :
    (∀ i ∈ (walk known 1 t.commands []).1, i.problem.severity ≠ .error) ∧
      (walk known 1 t.commands []).2 = [] := by
  simp only [lint, List.mem_mergeSort, List.forall_mem_append] at h
  refine ⟨h.1, ?_⟩
  cases hleft : (walk known 1 t.commands []).2 with
  | nil => rfl
  | cons b bs =>
    refine absurd rfl (h.2 ⟨b.position, b.command, .unclosed⟩ ?_)
    simp [hleft]

/-- The commands of a test without errors are those of a tree. -/
theorem exists_tree_of_lint {keep : String → Bool}
    (hkeep : ∀ name, Role.of name ≠ .plain → keep name = true) {known : Option (List String)}
    {t : TestCase} (h : ∀ i ∈ lint known t, i.problem.severity ≠ .error) :
    ∃ tree : Tree, tree.names = keptNames keep t.commands := by
  obtain ⟨hissues, hleft⟩ := walk_of_lint h
  obtain ⟨tree, rest, hnames, hends⟩ := finishes_of_walk hkeep hissues hleft
  cases hends
  exact ⟨tree, by simpa using hnames.symm⟩

end CestExport.Lint
