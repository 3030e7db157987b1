import CestExport.Proofs.Lint.Tree
import Mathlib.Computability.Language
import Mathlib.Order.Bounds.Basic

/-!
# The check accepts the words of the block grammar

A word is the sequence of the commands of a tree.  The open blocks of the check
say all that matters of the commands read so far: a step leaves no problem if and
only if some word goes on with it, and without a problem the open blocks can
always be finished.  So the check finds no error in a word and in nothing else,
and its first error stands where the commands begin no word any more.

    Finishes stack (name :: names)  ↔  the step leaves no problem, and `names` finish
      the blocks that are open behind it                             (finishes_cons_iff)
    the first k steps begin a word  ↔  no breaking issue at them     (continues_take_iff)
    no error in lint  ↔  the names are a word                 (mem_words_iff_no_error)
-/

namespace CestExport.Lint

/-! ## Algorithm -/

/-- The words of the block grammar: the commands of trees. -/
def words : Language String :=
  {w | ∃ tree : Tree, tree.names = w}

/-- Commands that some word begins with. -/
def Begins (w : List String) : Prop :=
  ∃ rest, w ++ rest ∈ words

/-- The names of the active steps. -/
def activeNames (steps : List Step) : List String :=
  (steps.filter (·.isActive)).map (·.name)

/-- An error that the commands up to its step show, unlike a block that stays open. -/
def Problem.Breaks (p : Problem) : Prop :=
  p.severity = .error ∧ p ≠ .unclosed

/-- Commands after which the open blocks can still be finished. -/
def Continues (stack : List OpenBlock) (names : List String) : Prop :=
  ∃ rest, Finishes stack (names ++ rest)

/-! ## Words -/

theorem mem_words_iff {w : List String} : w ∈ words ↔ Finishes [] w := by
  constructor
  · rintro ⟨tree, rfl⟩
    exact ⟨tree, [], (List.append_nil _).symm, .nil⟩
  · rintro ⟨tree, rest, rfl, hends⟩
    cases hends
    exact ⟨tree, (List.append_nil _).symm⟩

theorem begins_iff {w : List String} : Begins w ↔ Continues [] w := by
  simp only [Begins, Continues, mem_words_iff]

/-- Whatever is open can be closed. -/
theorem exists_finishes (stack : List OpenBlock) : ∃ names, Finishes stack names := by
  induction stack with
  | nil => exact ⟨[], .nil, [], rfl, .nil⟩
  | cons b bs ih =>
    obtain ⟨names, h⟩ := ih
    exact ⟨b.closer :: names, h.closer⟩

theorem continues_nil (stack : List OpenBlock) : Continues stack [] :=
  exists_finishes stack

theorem eq_nil_of_finishes_nil {stack : List OpenBlock} (h : Finishes stack []) : stack = [] := by
  obtain ⟨tree, rest, heq, hends⟩ := h
  obtain ⟨_, rfl⟩ := List.append_eq_nil_iff.1 heq.symm
  cases stack with
  | nil => rfl
  | cons b bs =>
    obtain ⟨branches, behind, rest, _, _, hnames⟩ := hends.exists_of_cons
    simp at hnames

/-! ## Steps -/

theorem track_opener {name : String} (h : name ∈ openers) (position : Nat)
    (stack : List OpenBlock) :
    track position name stack = (none, ⟨name, position, false⟩ :: stack) :=
  if_pos (List.contains_iff_mem.2 h)

theorem track_elseIf {b : OpenBlock} (hb : b.branches) (position : Nat) (bs : List OpenBlock) :
    track position "elseIf" (b :: bs) = (none, { b with sawElse := false } :: bs) := by
  simp [track, openers, branch, hb.1, hb.2]

theorem track_else {b : OpenBlock} (hb : b.branches) (position : Nat) (bs : List OpenBlock) :
    track position "else" (b :: bs) = (none, { b with sawElse := true } :: bs) := by
  simp [track, openers, branch, hb.1, hb.2]

theorem track_closer (b : OpenBlock) (position : Nat) (bs : List OpenBlock) :
    track position b.closer (b :: bs) = (none, bs) := by
  by_cases hdo : b.command = "do"
  · simp [OpenBlock.closer, hdo, track, openers, closer]
  · simp [OpenBlock.closer, hdo, track, openers, closer]

/-- The first of the commands that close a block is one that the block allows. -/
theorem track_of_ends {stack : List OpenBlock} {name : String} {names : List String}
    (h : Ends stack (name :: names)) (position : Nat) :
    ∃ stack', track position name stack = (none, stack') ∧ Finishes stack' names := by
  cases stack with
  | nil => cases h
  | cons b bs =>
    obtain ⟨branches, behind, rest, hbranches, hbehind, heq⟩ := h.exists_of_cons
    cases branches with
    | nil =>
      obtain ⟨rfl, rfl⟩ := List.cons.inj heq
      exact ⟨bs, track_closer b position bs, behind, rest, rfl, hbehind⟩
    | elseIf body others =>
      have hb : b.branches := hbranches.resolve_left (by simp)
      obtain ⟨rfl, rfl⟩ := List.cons.inj heq
      have hends := Ends.cons (b := { b with sawElse := false }) others behind
        (.inr ⟨hb.1, rfl⟩) hbehind
      refine ⟨_, track_elseIf hb position bs, body, _, ?_, hends⟩
      simp [OpenBlock.closer]
    | otherwise body =>
      have hb : b.branches := hbranches.resolve_left (by simp)
      obtain ⟨rfl, rfl⟩ := List.cons.inj heq
      have hends := Ends.cons (b := { b with sawElse := true }) .nil behind (.inl rfl) hbehind
      refine ⟨_, track_else hb position bs, body, _, ?_, hends⟩
      simp [Branches.names, OpenBlock.closer]

/-- The first of the commands that finish the open blocks leaves no problem. -/
theorem track_of_finishes {stack : List OpenBlock} {name : String} {names : List String}
    (h : Finishes stack (name :: names)) (position : Nat) :
    ∃ stack', track position name stack = (none, stack') ∧ Finishes stack' names := by
  obtain ⟨tree, rest, heq, hends⟩ := h
  cases tree with
  | nil =>
    obtain rfl : rest = name :: names := heq.symm
    exact track_of_ends hends position
  | plain p hp behind =>
    obtain ⟨rfl, rfl⟩ := List.cons.inj heq
    exact ⟨stack, track_of_plain hp position stack, behind, rest, rfl, hends⟩
  | conditional body branches behind =>
    obtain ⟨rfl, rfl⟩ := List.cons.inj heq
    have hblock := Ends.cons (b := ⟨"if", position, false⟩) branches behind
      (.inr ⟨rfl, rfl⟩) hends
    refine ⟨_, track_opener (by decide) position stack, body, _, ?_, hblock⟩
    simp [OpenBlock.closer]
  | loop p hp body behind =>
    obtain ⟨rfl, rfl⟩ := List.cons.inj heq
    have hloops : ∀ q ∈ loops, q ∈ openers ∧ q ≠ "do" := by decide
    obtain ⟨hopener, hdo⟩ := hloops name hp
    have hblock := Ends.cons (b := ⟨name, position, false⟩) .nil behind (.inl rfl) hends
    refine ⟨_, track_opener hopener position stack, body, _, ?_, hblock⟩
    simp [Branches.names, OpenBlock.closer, hdo]
  | doLoop body behind =>
    obtain ⟨rfl, rfl⟩ := List.cons.inj heq
    have hblock := Ends.cons (b := ⟨"do", position, false⟩) .nil behind (.inl rfl) hends
    refine ⟨_, track_opener (by decide) position stack, body, _, ?_, hblock⟩
    simp [Branches.names, OpenBlock.closer]

/-- A command finishes with what follows it if and only if it leaves no problem, and what follows
finishes the blocks that it leaves open. -/
theorem finishes_cons_iff {stack : List OpenBlock} {name : String} {names : List String}
    (position : Nat) : Finishes stack (name :: names) ↔
      ∃ stack', track position name stack = (none, stack') ∧ Finishes stack' names := by
  constructor
  · exact fun h => track_of_finishes h position
  · rintro ⟨stack', htrack, h⟩
    exact finishes_of_track htrack h

theorem continues_cons_of_track {position : Nat} {name : String} {stack stack' : List OpenBlock}
    (h : track position name stack = (none, stack')) (names : List String) :
    Continues stack (name :: names) ↔ Continues stack' names := by
  simp [Continues, finishes_cons_iff position, h]

theorem not_continues_of_track {position : Nat} {name : String} {stack stack' : List OpenBlock}
    {p : Problem} (h : track position name stack = (some p, stack')) (names : List String) :
    ¬Continues stack (name :: names) := by
  simp [Continues, finishes_cons_iff position, h]

/-- Whatever is wrong with the blocks shows at once. -/
theorem breaks_track {position : Nat} {name : String} {stack stack' : List OpenBlock}
    {p : Problem} (h : track position name stack = (some p, stack')) : p.Breaks := by
  have hp : (track position name stack).1 = some p := by rw [h]
  refine ⟨severity_track hp, ?_⟩
  rintro rfl
  unfold track branch closer at hp
  repeat' split at hp
  all_goals simp at hp

/-- What is wrong with a command by itself is no error. -/
theorem severity_commandProblem {known : Option (List String)} {name : String} {p : Problem}
    (h : commandProblem? known name = some p) : p.severity ≠ .error := by
  unfold commandProblem? at h
  repeat' split at h
  all_goals simp at h
  all_goals simp [← h, Problem.severity]

/-! ## Walks -/

theorem walk_of_inactive {s : Step} (h : s.isActive = false) (known : Option (List String))
    (n : Nat) (rest : List Step) (stack : List OpenBlock) :
    walk known n (s :: rest) stack = walk known (n + 1) rest stack := by
  simp [walk, h]

theorem mem_walk_of_active {s : Step} (h : s.isActive = true) {known : Option (List String)}
    {n : Nat} {rest : List Step} {stack stack' : List OpenBlock} {problem : Option Problem}
    (htrack : track n s.name stack = (problem, stack')) {i : Issue} :
    i ∈ (walk known n (s :: rest) stack).1 ↔
      (∃ p, commandProblem? known s.name = some p ∧ i = ⟨n, s.name, p⟩) ∨
      (∃ p, problem = some p ∧ i = ⟨n, s.name, p⟩) ∨ i ∈ (walk known (n + 1) rest stack').1 := by
  simp only [walk, h, htrack, Bool.not_true, Bool.false_eq_true, if_false, List.mem_append,
    List.map_append, List.mem_map, Option.mem_toList, or_assoc, eq_comm (a := i)]

/-- A step that leaves no problem has no breaking issue. -/
theorem mem_walk_of_breaks {s : Step} (h : s.isActive = true) {known : Option (List String)}
    {n : Nat} {rest : List Step} {stack stack' : List OpenBlock}
    (htrack : track n s.name stack = (none, stack')) {i : Issue} (hbreaks : i.problem.Breaks) :
    i ∈ (walk known n (s :: rest) stack).1 ↔ i ∈ (walk known (n + 1) rest stack').1 := by
  rw [mem_walk_of_active h htrack]
  constructor
  · rintro (⟨p, hp, rfl⟩ | ⟨p, hp, _⟩ | hi)
    · exact absurd hbreaks.1 (severity_commandProblem hp)
    · cases hp
    · exact hi
  · exact fun hi => .inr (.inr hi)

theorem left_of_active {s : Step} (h : s.isActive = true) {known : Option (List String)}
    {n : Nat} {rest : List Step} {stack stack' : List OpenBlock} {problem : Option Problem}
    (htrack : track n s.name stack = (problem, stack')) :
    (walk known n (s :: rest) stack).2 = (walk known (n + 1) rest stack').2 := by
  simp [walk, h, htrack]

theorem activeNames_of_inactive {s : Step} (h : s.isActive = false) (rest : List Step) :
    activeNames (s :: rest) = activeNames rest := by
  simp [activeNames, h]

theorem activeNames_of_active {s : Step} (h : s.isActive = true) (rest : List Step) :
    activeNames (s :: rest) = s.name :: activeNames rest := by
  simp [activeNames, h]

theorem keptNames_true (steps : List Step) :
    keptNames (fun _ => true) steps = activeNames steps := by
  simp [keptNames, activeNames]

/-- Issues are found at the steps that are still to come. -/
theorem le_position_of_mem_walk {known : Option (List String)} {n : Nat} {steps : List Step}
    {stack : List OpenBlock} {i : Issue} (h : i ∈ (walk known n steps stack).1) :
    n ≤ i.position := by
  induction steps generalizing n stack with
  | nil => simp [walk] at h
  | cons s rest ih =>
    cases hactive : s.isActive with
    | false =>
      rw [walk_of_inactive hactive] at h
      have := ih h
      omega
    | true =>
      rw [mem_walk_of_active hactive rfl] at h
      rcases h with ⟨p, _, rfl⟩ | ⟨p, _, rfl⟩ | h
      · exact Nat.le_refl n
      · exact Nat.le_refl n
      · have := ih h
        omega

/-- Steps that finish the open blocks are walked without an error, and nothing stays open. -/
theorem walk_of_finishes (known : Option (List String)) {n : Nat} {steps : List Step}
    {stack : List OpenBlock} (h : Finishes stack (activeNames steps)) :
    (∀ i ∈ (walk known n steps stack).1, i.problem.severity ≠ .error) ∧
      (walk known n steps stack).2 = [] := by
  induction steps generalizing n stack with
  | nil =>
    obtain rfl := eq_nil_of_finishes_nil h
    simp [walk]
  | cons s rest ih =>
    cases hactive : s.isActive with
    | false =>
      rw [walk_of_inactive hactive]
      rw [activeNames_of_inactive hactive] at h
      exact ih h
    | true =>
      rw [activeNames_of_active hactive, finishes_cons_iff n] at h
      obtain ⟨stack', htrack, hrest⟩ := h
      obtain ⟨hissues, hleft⟩ := ih (n := n + 1) hrest
      refine ⟨?_, by rw [left_of_active hactive htrack, hleft]⟩
      intro i hi
      rw [mem_walk_of_active hactive htrack] at hi
      rcases hi with ⟨p, hp, rfl⟩ | ⟨p, hp, _⟩ | hi
      · exact severity_commandProblem hp
      · cases hp
      · exact hissues i hi

/-- From some open blocks on, the first steps can be continued if and only if no breaking issue is
found at them. -/
theorem continues_take_iff (known : Option (List String)) (n k : Nat) (steps : List Step)
    (stack : List OpenBlock) : Continues stack (activeNames (steps.take k)) ↔
      ∀ i ∈ (walk known (n + 1) steps stack).1, i.problem.Breaks → n + k < i.position := by
  induction steps generalizing n k stack with
  | nil => simpa [walk, activeNames] using continues_nil stack
  | cons s rest ih =>
    cases k with
    | zero =>
      refine iff_of_true (continues_nil stack) ?_
      intro i hi _
      exact le_position_of_mem_walk hi
    | succ k =>
      rw [List.take_succ_cons]
      cases hactive : s.isActive with
      | false =>
        rw [activeNames_of_inactive hactive, walk_of_inactive hactive, ih (n + 1)]
        simp only [Nat.add_assoc, Nat.add_comm 1 k]
      | true =>
        rw [activeNames_of_active hactive]
        obtain ⟨problem, stack', htrack⟩ :
          ∃ p st, track (n + 1) s.name stack = (p, st) := ⟨_, _, rfl⟩
        cases problem with
        | none =>
          rw [continues_cons_of_track htrack, ih (n + 1)]
          constructor
          · intro h i hi hbreaks
            have := h i ((mem_walk_of_breaks hactive htrack hbreaks).1 hi) hbreaks
            omega
          · intro h i hi hbreaks
            have := h i ((mem_walk_of_breaks hactive htrack hbreaks).2 hi) hbreaks
            omega
        | some p =>
          refine iff_of_false (not_continues_of_track htrack _) ?_
          intro h
          have hfound : (⟨n + 1, s.name, p⟩ : Issue) ∈ (walk known (n + 1) (s :: rest) stack).1 :=
            (mem_walk_of_active hactive htrack).2 (.inr (.inl ⟨p, rfl, rfl⟩))
          have hlate : n + (k + 1) < n + 1 := h _ hfound (breaks_track htrack)
          omega

/-! ## Tests -/

theorem mem_lint_iff {known : Option (List String)} {t : TestCase} {i : Issue} :
    i ∈ lint known t ↔ i ∈ (walk known 1 t.commands []).1 ∨
      ∃ b ∈ (walk known 1 t.commands []).2, i = ⟨b.position, b.command, .unclosed⟩ := by
  simp [lint, eq_comm (a := i)]

theorem mem_words_iff_no_error {known : Option (List String)} {t : TestCase} :
    activeNames t.commands ∈ words ↔ ∀ i ∈ lint known t, i.problem.severity ≠ .error := by
  rw [mem_words_iff]
  constructor
  · intro h
    obtain ⟨hissues, hleft⟩ := walk_of_finishes known (n := 1) h
    intro i hi
    rw [mem_lint_iff, hleft] at hi
    exact hissues i (hi.resolve_right (by simp))
  · intro h
    obtain ⟨hissues, hleft⟩ := walk_of_lint h
    rw [← keptNames_true]
    exact finishes_of_walk (fun _ _ => rfl) hissues hleft

/-- The first steps of a test begin a word if and only if no breaking issue is reported at them. -/
theorem begins_take_iff (known : Option (List String)) (t : TestCase) (k : Nat) :
    Begins (activeNames (t.commands.take k)) ↔
      ∀ i ∈ lint known t, i.problem.Breaks → k < i.position := by
  have hwalk := continues_take_iff known 0 k t.commands []
  simp only [Nat.zero_add] at hwalk
  rw [begins_iff, hwalk]
  constructor
  · intro h i hi hbreaks
    rw [mem_lint_iff] at hi
    rcases hi with hi | ⟨b, _, rfl⟩
    · exact h i hi hbreaks
    · exact absurd rfl hbreaks.2
  · intro h i hi
    exact h i (mem_lint_iff.2 (.inl hi))

/-- The check reports no error if and only if the names of the active steps are a word of the
grammar; and the first step with an error, blocks that stay open apart, is the first one up to
which the names begin no word. -/
theorem lint_decides_words (known : Option (List String)) (t : TestCase) :
    ((∀ i ∈ lint known t, i.problem.severity ≠ .error) ↔ activeNames t.commands ∈ words) ∧
    ∀ n, IsLeast {k | ∃ i ∈ lint known t, i.problem.Breaks ∧ i.position = k} n ↔
      IsLeast {k | ¬Begins (activeNames (t.commands.take k))} n := by
  refine ⟨mem_words_iff_no_error.symm, fun n => ?_⟩
  have hbegins : ∀ k, ¬Begins (activeNames (t.commands.take k)) ↔
      ∃ i ∈ lint known t, i.problem.Breaks ∧ i.position ≤ k := by
    intro k
    rw [begins_take_iff known]
    simp only [not_forall, Nat.not_lt, exists_prop]
  simp only [hbegins]
  constructor
  · rintro ⟨⟨i, hi, hbreaks, rfl⟩, hleast⟩
    refine ⟨⟨i, hi, hbreaks, Nat.le_refl _⟩, ?_⟩
    rintro k ⟨j, hj, hjbreaks, hjk⟩
    exact Nat.le_trans (hleast ⟨j, hj, hjbreaks, rfl⟩) hjk
  · rintro ⟨⟨i, hi, hbreaks, hin⟩, hleast⟩
    -- the issue cannot stand before the least position, so it stands there
    have hni : n ≤ i.position := hleast ⟨i, hi, hbreaks, Nat.le_refl _⟩
    refine ⟨⟨i, hi, hbreaks, Nat.le_antisymm hin hni⟩, ?_⟩
    rintro k ⟨j, hj, hjbreaks, rfl⟩
    exact hleast ⟨j, hj, hjbreaks, Nat.le_refl _⟩

end CestExport.Lint
