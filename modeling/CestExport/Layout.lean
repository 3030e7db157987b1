import CestExport.Emission
import CestExport.Number.Power

/-!
# Laying out emissions

Emissions are laid out one after the other; the surrounding level starts at zero
and is shifted by each block.  A negative level counts as zero where a line is
placed, but is not forgotten.

An indentation fails only if its width is no machine integer.  Running out of memory
is not modelled: spaces that no machine could hold are a text like any other.

    layFrom a (xs ++ ys) = layFrom a xs ++ layFrom (a + shift xs) ys      (layFrom_append)
    the texts laid out are the texts of the emissions, but for empty ones (map_text_layFrom)
-/

namespace CestExport.Layout

/-- The lines of emissions, with levels, from a surrounding level on; empty texts are dropped. -/
def layFrom (ambient : Int) : List Emission → List Line
  | [] => []
  | e :: es =>
    let b := e.toBlock
    let inner := ambient + b.before
    ((b.lines.filter (·.text != "")).map fun l => ⟨max inner 0 + l.level, l.text⟩) ++
      layFrom (inner + b.after) es

/-- The lines of emissions with their levels. -/
def lay (es : List Emission) : List Line :=
  layFrom 0 es

/-- The total shift of the surrounding level. -/
def shift : List Emission → Int
  | [] => 0
  | e :: es => e.toBlock.before + e.toBlock.after + shift es

/-- An indentation whose width is no machine integer. -/
inductive IndentError
  | tooWide
deriving DecidableEq, Repr

/-- Spaces, none for a negative number. -/
def spaces (n : Int) : Except IndentError String :=
  if -Number.wordBound ≤ n ∧ n < Number.wordBound then .ok (String.ofList (List.replicate n.toNat ' '))
  else .error .tooWide

/-- A line as text, indented by `width` for each level. -/
def indentLine (width : Int) (l : Line) : Except IndentError String :=
  (spaces (width * l.level)).map (· ++ l.text)

/-- Lines as texts, indented by `width` for each level. -/
def indent (width : Int) (ls : List Line) : Except IndentError (List String) :=
  ls.mapM (indentLine width)

/-- The texts of emissions that are not empty, in order. -/
def texts (es : List Emission) : List String :=
  (es.flatMap fun e => e.toBlock.lines.map (·.text)).filter (· != "")

/-! ## Lemmas -/

theorem layFrom_append (a : Int) (xs ys : List Emission) :
    layFrom a (xs ++ ys) = layFrom a xs ++ layFrom (a + shift xs) ys := by
  induction xs generalizing a with
  | nil => simp [layFrom, shift]
  | cons e es ih =>
    simp only [List.cons_append, layFrom, ih, List.append_assoc, shift, Int.add_assoc]

theorem map_text_layFrom (a : Int) (es : List Emission) :
    (layFrom a es).map (·.text) = texts es := by
  induction es generalizing a with
  | nil => rfl
  | cons e es ih =>
    rw [layFrom, List.map_append, ih, texts, texts, List.flatMap_cons, List.filter_append,
      List.filter_map, List.map_map]
    rfl

end CestExport.Layout
