import CestExport.Layout
import CestExport.Proofs.Lint.Tree
import Mathlib.Data.List.Forall2

/-!
# The levels at which emissions are placed

The surrounding level is a sum of shifts; commands whose blocks are closed keep
it at the number of the blocks that are open.

    the commands of a tree are placed at its levels                          (Places.tree)
    0 ≤ p for every p in placings a es  →  layFrom a es = layAt (placings a es) es
                                                                          (layFrom_eq_layAt)
-/

namespace CestExport.Layout

/-! ## Algorithm -/

/-- The level at which each emission is placed, from a surrounding level on. -/
def placings (ambient : Int) : List Emission → List Int
  | [] => []
  | e :: es =>
    let b := e.toBlock
    (ambient + b.before) :: placings (ambient + b.before + b.after) es

/-- The lines of emissions, each emission at a level of its own; empty texts are dropped. -/
def layAt : List Int → List Emission → List Line
  | level :: levels, e :: es =>
    ((e.toBlock.lines.filter (·.text != "")).map fun l => ⟨level + l.level, l.text⟩) ++
      layAt levels es
  | _, _ => []

/-- The levels at which commands are placed by their roles, from one surrounding level to
another. -/
inductive Places : Int → List Role → List Int → Int → Prop
  | nil (a : Int) : Places a [] [] a
  | cons {a level b c : Int} {role : Role} {roles : List Role} {levels : List Int} :
    level = a + role.before → b = level + role.after → Places b roles levels c →
    Places a (role :: roles) (level :: levels) c

/-! ## Lemmas -/

theorem placings_cons (a : Int) (e : Emission) (es : List Emission) :
    placings a (e :: es) =
      (a + e.toBlock.before) :: placings (a + e.toBlock.before + e.toBlock.after) es := rfl

/-- A level that is not negative counts as it is. -/
theorem layFrom_eq_layAt {a : Int} {es : List Emission} (h : ∀ p ∈ placings a es, 0 ≤ p) :
    layFrom a es = layAt (placings a es) es := by
  induction es generalizing a with
  | nil => rfl
  | cons e es ih =>
    rw [placings_cons, List.forall_mem_cons] at h
    simp only [layFrom, placings_cons, layAt, ih h.2, Int.max_eq_left h.1]

namespace Places

theorem append {a b c : Int} {roles roles' : List Role} {levels levels' : List Int}
    (h : Places a roles levels b) (h' : Places b roles' levels' c) :
    Places a (roles ++ roles') (levels ++ levels') c := by
  induction h with
  | nil => exact h'
  | cons hlevel hb _ ih => exact .cons hlevel hb (ih h')

theorem plain {a b : Int} {roles : List Role} {levels : List Int}
    (h : Places a roles levels b) : Places a (.plain :: roles) (a :: levels) b :=
  .cons (Int.add_zero a).symm (Int.add_zero a).symm h

theorem opener {a b : Int} {roles : List Role} {levels : List Int}
    (h : Places (a + 1) roles levels b) : Places a (.opener :: roles) (a :: levels) b :=
  .cons (Int.add_zero a).symm rfl h

theorem branch {a b : Int} {roles : List Role} {levels : List Int}
    (h : Places (a + 1) roles levels b) : Places (a + 1) (.branch :: roles) (a :: levels) b := by
  refine .cons ?_ rfl h
  show a = a + 1 + -1
  omega

theorem closer {a b : Int} {roles : List Role} {levels : List Int}
    (h : Places a roles levels b) : Places (a + 1) (.closer :: roles) (a :: levels) b := by
  refine .cons ?_ (Int.add_zero a).symm h
  show a = a + 1 + -1
  omega

/-! ## Trees -/

open Lint

mutual

/-- The commands of a tree are placed at the levels of the tree, and keep the surrounding one. -/
theorem tree (d : Nat) :
    ∀ t : Tree, Places d (t.names.map Role.of) ((t.levels d).map Int.ofNat) d
  | .nil => .nil d
  | .plain name h rest => by
    simp only [Tree.names, Tree.levels, List.map_cons, h]
    exact (tree d rest).plain
  | .conditional body bs rest => by
    have hend : Places (d + 1) (.closer :: rest.names.map Role.of)
        ((d : Int) :: (rest.levels d).map Int.ofNat) d := (tree d rest).closer
    have hinner := (tree (d + 1) body).append ((branches d bs).append hend)
    simp only [Tree.names, Tree.levels, List.map_cons, List.map_append]
    exact hinner.opener
  | .loop name h body rest => by
    have hopener : Role.of name = .opener := by
      have hloops : ∀ n ∈ loops, Role.of n = .opener := by decide
      exact hloops name h
    have hend : Places (d + 1) (.closer :: rest.names.map Role.of)
        ((d : Int) :: (rest.levels d).map Int.ofNat) d := (tree d rest).closer
    have hinner := (tree (d + 1) body).append hend
    simp only [Tree.names, Tree.levels, List.map_cons, List.map_append, hopener]
    exact hinner.opener
  | .doLoop body rest => by
    have hend : Places (d + 1) (.closer :: rest.names.map Role.of)
        ((d : Int) :: (rest.levels d).map Int.ofNat) d := (tree d rest).closer
    have hinner := (tree (d + 1) body).append hend
    simp only [Tree.names, Tree.levels, List.map_cons, List.map_append]
    exact hinner.opener

/-- Branches leave their block open. -/
theorem branches (d : Nat) :
    ∀ bs : Branches,
      Places (d + 1) (bs.names.map Role.of) ((bs.levels d).map Int.ofNat) (d + 1)
  | .nil => .nil _
  | .elseIf body rest => by
    have hinner := (tree (d + 1) body).append (branches d rest)
    simp only [Branches.names, Branches.levels, List.map_cons, List.map_append]
    exact hinner.branch
  | .otherwise body => by
    simp only [Branches.names, Branches.levels, List.map_cons]
    exact (tree (d + 1) body).branch

end

end Places

/-! ## Emissions -/

/-- Emissions that shift as roles do are placed where the roles are. -/
theorem placings_eq {roles : List Role} {es : List Emission}
    (hshifts : List.Forall₂ (fun role e => e.toBlock.Shifts role) roles es) {a b : Int}
    {levels : List Int} (h : Places a roles levels b) :
    placings a es = levels ∧ a + shift es = b := by
  induction hshifts generalizing a levels with
  | nil =>
    cases h
    exact ⟨rfl, Int.add_zero _⟩
  | @cons role e roles es hs _ ih =>
    cases h with
    | cons hlevel hb hrest =>
      obtain ⟨hplaced, hshift⟩ := ih hrest
      rw [← hs.before] at hlevel
      rw [← hs.after] at hb
      subst hlevel hb
      refine ⟨by rw [placings_cons, hplaced], ?_⟩
      rw [← hshift, shift]
      omega

end CestExport.Layout
