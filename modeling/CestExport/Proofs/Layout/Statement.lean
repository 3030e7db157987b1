import CestExport.Layout
import Mathlib.Algebra.Ring.Int.Defs

/-!
# A layout, statement by statement

A layout has every statement that is not empty, once and in order.  Each stands at
the level it has within its own emission, raised by the sum of all adjustments in
front of it; a negative sum raises nothing, but it is the sum that is carried on
and not what it counts for.  What is laid out first therefore changes what is laid
out behind it by this sum alone.

    shift es = (adjustments es).sum                                    (shift_eq_sum)
    the statement at position j  =  the line at position j of the layout
                                                            (getElem?_layFrom_iff)
    levels, concatenation and what may be left out             (lay_compositional)
-/

namespace CestExport

/-! ## Algorithm -/

/-- Whether an emission is nothing or an empty statement. -/
def Emission.isSilent : Emission → Bool
  | nothing => true
  | statement text => text == ""
  | block _ => false

namespace Layout

/-- The adjustments of the surrounding level, in order: one in front of the lines of each emission
and one behind them. -/
def adjustments (es : List Emission) : List Int :=
  es.flatMap fun e => [e.toBlock.before, e.toBlock.after]

/-- How many lines have a text that is not empty. -/
def countTexts (lines : List Line) : Nat :=
  lines.countP (·.text != "")

/-- The statement at position `j` of emissions, empty ones not counted: it is the line `l` of the
emission `e`, which follows the emissions `front`. -/
structure StatementAt (es : List Emission) (j : Nat) (front : List Emission) (e : Emission)
    (l : Line) : Prop where
  not_empty : l.text ≠ ""
  split : ∃ behind above below, es = front ++ e :: behind ∧
    e.toBlock.lines = above ++ l :: below ∧ j = (texts front).length + countTexts above

/-! ## Adjustments -/

theorem shift_eq_sum (es : List Emission) : shift es = (adjustments es).sum := by
  induction es with
  | nil => rfl
  | cons e es ih =>
    show e.toBlock.before + e.toBlock.after + shift es =
      (e.toBlock.before :: e.toBlock.after :: adjustments es).sum
    rw [List.sum_cons, List.sum_cons, ih]
    omega

/-! ## Positions -/

theorem length_texts_cons (e : Emission) (es : List Emission) :
    (texts (e :: es)).length = countTexts e.toBlock.lines + (texts es).length := by
  rw [texts, List.flatMap_cons, List.filter_append, List.length_append, List.filter_map,
    List.length_map, countTexts, List.countP_eq_length_filter]
  rfl

theorem length_layFrom (a : Int) (es : List Emission) :
    (layFrom a es).length = (texts es).length := by
  rw [← map_text_layFrom a es, List.length_map]

theorem countTexts_cons_of_empty {l : Line} (h : l.text = "") (lines : List Line) :
    countTexts (l :: lines) = countTexts lines :=
  List.countP_cons_of_neg (by simp [h])

theorem countTexts_cons_of_ne {l : Line} (h : l.text ≠ "") (lines : List Line) :
    countTexts (l :: lines) = countTexts lines + 1 :=
  List.countP_cons_of_pos (by simp [h])

/-- A line with a text is behind any smaller number of such lines. -/
theorem exists_split_of_lt {lines : List Line} {j : Nat} (h : j < countTexts lines) :
    ∃ above l below, lines = above ++ l :: below ∧ l.text ≠ "" ∧ j = countTexts above := by
  induction lines generalizing j with
  | nil => exact absurd h (Nat.not_lt_zero j)
  | cons x xs ih =>
    by_cases hx : x.text = ""
    · rw [countTexts_cons_of_empty hx] at h
      obtain ⟨above, l, below, rfl, hl, hj⟩ := ih h
      exact ⟨x :: above, l, below, rfl, hl, by rw [countTexts_cons_of_empty hx, hj]⟩
    · cases j with
      | zero => exact ⟨[], x, xs, rfl, hx, rfl⟩
      | succ j =>
        rw [countTexts_cons_of_ne hx] at h
        obtain ⟨above, l, below, rfl, hl, hj⟩ := ih (Nat.lt_of_succ_lt_succ h)
        exact ⟨x :: above, l, below, rfl, hl, by rw [countTexts_cons_of_ne hx, hj]⟩

/-- There is a statement at each position up to the number of statements. -/
theorem exists_statementAt {es : List Emission} {j : Nat} (h : j < (texts es).length) :
    ∃ front e l, StatementAt es j front e l := by
  induction es generalizing j with
  | nil => simp [texts] at h
  | cons e es ih =>
    rw [length_texts_cons] at h
    by_cases hj : j < countTexts e.toBlock.lines
    · obtain ⟨above, l, below, hlines, hl, hj⟩ := exists_split_of_lt hj
      refine ⟨[], e, l, hl, es, above, below, rfl, hlines, ?_⟩
      rw [hj, show texts [] = [] from rfl, List.length_nil, Nat.zero_add]
    · obtain ⟨front, e', l, hl, behind, above, below, rfl, hlines, hposition⟩ :=
        ih (j := j - countTexts e.toBlock.lines) (by omega)
      refine ⟨e :: front, e', l, hl, behind, above, below, rfl, hlines, ?_⟩
      rw [length_texts_cons]
      omega

/-! ## Levels -/

/-- A statement is laid out at its position, at its own level above the sum of what was shifted in
front of it. -/
theorem getElem?_layFrom {es front : List Emission} {e : Emission} {l : Line} {j : Nat}
    (h : StatementAt es j front e l) (a : Int) :
    (layFrom a es)[j]? =
      some ⟨l.level + max 0 (a + shift front + e.toBlock.before), l.text⟩ := by
  obtain ⟨hl, behind, above, below, rfl, hlines, rfl⟩ := h
  have hfront : (layFrom a front).length = (texts front).length := length_layFrom a front
  have habove : (above.filter (·.text != "")).length = countTexts above :=
    List.countP_eq_length_filter.symm
  have hown : (l :: below).filter (·.text != "") = l :: below.filter (·.text != "") :=
    List.filter_cons_of_pos (by simpa using hl)
  rw [layFrom_append, List.getElem?_append_right (by omega), hfront, Nat.add_sub_cancel_left,
    layFrom, hlines]
  simp only [List.filter_append, hown, List.map_append, List.map_cons, List.append_assoc,
    List.cons_append]
  rw [List.getElem?_append_right (by rw [List.length_map]; omega), List.length_map, habove,
    Nat.sub_self, List.getElem?_cons_zero, Int.add_comm l.level, Int.max_comm 0]

/-- The lines of a layout are its statements, each at its position. -/
theorem getElem?_layFrom_iff (a : Int) (es : List Emission) (j : Nat) (m : Line) :
    (layFrom a es)[j]? = some m ↔ ∃ front e l, StatementAt es j front e l ∧
      m = ⟨l.level + max 0 (a + shift front + e.toBlock.before), l.text⟩ := by
  constructor
  · intro h
    obtain ⟨hj, -⟩ := List.getElem?_eq_some_iff.1 h
    rw [length_layFrom] at hj
    obtain ⟨front, e, l, hstatement⟩ := exists_statementAt hj
    rw [getElem?_layFrom hstatement a] at h
    exact ⟨front, e, l, hstatement, (Option.some.inj h).symm⟩
  · rintro ⟨front, e, l, hstatement, rfl⟩
    exact getElem?_layFrom hstatement a

/-! ## Silent emissions -/

theorem layFrom_of_isSilent {e : Emission} (h : e.isSilent = true) (a : Int)
    (es : List Emission) : layFrom a (e :: es) = layFrom a es := by
  cases e with
  | nothing => simp [layFrom, Emission.toBlock]
  | statement text =>
    obtain rfl : text = "" := by simpa [Emission.isSilent] using h
    simp [layFrom, Emission.toBlock]
  | block b => cases h

theorem layFrom_filter_isSilent (a : Int) (es : List Emission) :
    layFrom a (es.filter fun e => !e.isSilent) = layFrom a es := by
  induction es generalizing a with
  | nil => rfl
  | cons e es ih =>
    by_cases h : e.isSilent = true
    · rw [List.filter_cons_of_neg (by simp [h]), ih, layFrom_of_isSilent h]
    · rw [List.filter_cons_of_pos (by simpa using h), layFrom, ih, layFrom]

/-! ## Composition -/

/-- A layout is lossless and compositional, whatever the levels and the adjustments are.  Its texts
are those of the statements that are not empty.  The line at a position stands for the statement
there, at the level the statement has in its block plus the sum of all adjustments in front of it,
those of the emissions before and the starting one of its block; a negative sum counts as zero.
The layout of emissions begins that of more of them, which goes on as if it were a layout of its
own when the adjustments come to zero; and silent emissions may be left out. -/
theorem lay_compositional (xs ys : List Emission) :
    (lay xs).map (·.text) = texts xs ∧
    (∀ j m, (lay xs)[j]? = some m ↔ ∃ front e l, StatementAt xs j front e l ∧
      m = ⟨l.level + max 0 ((adjustments front).sum + e.toBlock.before), l.text⟩) ∧
    lay xs <+: lay (xs ++ ys) ∧
    ((adjustments xs).sum = 0 → lay (xs ++ ys) = lay xs ++ lay ys) ∧
    lay (xs.filter fun e => !e.isSilent) = lay xs := by
  have happend : lay (xs ++ ys) = lay xs ++ layFrom (adjustments xs).sum ys := by
    rw [lay, layFrom_append, Int.zero_add, shift_eq_sum]
    rfl
  refine ⟨map_text_layFrom 0 xs, ?_, ?_, ?_, layFrom_filter_isSilent 0 xs⟩
  · intro j m
    rw [lay, getElem?_layFrom_iff]
    simp only [Int.zero_add, shift_eq_sum]
  · rw [happend]
    exact List.prefix_append _ _
  · intro hsum
    rw [happend, hsum]
    rfl

/-- Two closers too many are made up for by two openers behind them: what follows is laid out as it
is alone, although every line so far stands at the lowest level. -/
theorem lay_compositional_earlyClosers :
    let closer : Emission := .block ⟨[⟨0, "\x7d"⟩], -1, 0⟩
    let opener : Emission := .block ⟨[⟨0, "do \x7b"⟩], 0, 1⟩
    let xs := [closer, .nothing, closer, opener, .statement "", opener]
    let ys := [opener, .statement "$I->wait(1);"]
    (adjustments xs).sum = 0 ∧ lay (xs ++ ys) = lay xs ++ lay ys ∧
      lay (xs ++ ys) = [⟨0, "\x7d"⟩, ⟨0, "\x7d"⟩, ⟨0, "do \x7b"⟩, ⟨0, "do \x7b"⟩,
        ⟨0, "do \x7b"⟩, ⟨1, "$I->wait(1);"⟩] := by
  intro closer opener xs ys
  have hsum : (adjustments xs).sum = 0 := by decide
  obtain ⟨-, -, -, hzero, -⟩ := lay_compositional xs ys
  exact ⟨hsum, hzero hsum, by decide⟩

end Layout

end CestExport
