import CestExport.Command.Draft
import CestExport.Lint
import CestExport.Proofs.Php.Pasted

/-!
# What commands do to the blocks around them

A command opens a block, continues it, closes it or leaves all blocks alone, and
what it generates shifts the level accordingly.  A draft `Fits` a role if it
shifts the level as the role does and its lines nest between the two depths.

    d.Fits role  →  (d.settle c).1.toBlock.Fits role                    (Draft.Fits.settle)
    Phrase text  →  (Draft.statement text).Fits .plain                     (fits_statement)
-/

namespace CestExport

open Php

/-! ## Algorithm -/

/-- What a command does to the blocks around it. -/
inductive Role
  | plain
  | opener
  | branch
  | closer
deriving DecidableEq, Repr

namespace Role

/-- The role of a command. -/
def of (name : String) : Role :=
  if Lint.openers.contains name then .opener
  else if name == "elseIf" || name == "else" then .branch
  else if name == "end" || name == "repeatIf" then .closer
  else .plain

/-- The shift of the level in front of a command. -/
def before : Role → Int
  | plain | opener => 0
  | branch | closer => -1

/-- The shift of the level behind a command. -/
def after : Role → Int
  | plain | closer => 0
  | opener | branch => 1

end Role

/-- A block that shifts the level as a role does. -/
structure Block.Shifts (role : Role) (b : Block) : Prop where
  before : b.before = role.before
  after : b.after = role.after

/-- A block that shifts the level as a role does, with lines that nest accordingly. -/
structure Block.Fits (role : Role) (b : Block) : Prop extends Block.Shifts role b where
  nests : Nests (-role.before) b.lines role.after

/-- A draft of what fits a role. -/
def Draft.Fits (role : Role) : Draft → Prop
  | ready e => e.toBlock.Fits role
  | assign _ expression => role = .plain ∧ Closed 0 expression
  | iterate collection _ => role = .opener ∧ Closed 0 collection
  | repeated _ count => role = .opener ∧ Closed 0 count

/-- A generator whose drafts fit a role. -/
def Generator.Fits (g : Generator) (role : Role) : Prop :=
  ∀ {settings step d}, g settings step = .ok d → d.Fits role

/-! ## Lemmas -/

namespace Draft

theorem fits_nothing : (ready .nothing).Fits .plain where
  before := rfl
  after := rfl
  nests := .nil 0

theorem fits_statement {text : String} (h : Phrase text) : (statement text).Fits .plain where
  before := rfl
  after := rfl
  nests := .phrase h (.nil 0)

theorem fits_lines {ls : List (Int × String)}
    (h : Nests 0 (ls.map fun l => ⟨l.1, l.2⟩) 0) : (lines ls).Fits .plain where
  before := rfl
  after := rfl
  nests := h

theorem fits_assign (name : String) {expression : String} (h : Closed 0 expression) :
    (assign name expression).Fits .plain :=
  ⟨rfl, h⟩

/-- Lines that nest by themselves do so around a handle that is acquired and released. -/
theorem fits_held {handle acquire : String} {body : List (Int × String)} (hhandle : Phrase handle)
    (hacquire : Closed 0 acquire) (hbody : Nests 0 (body.map fun l => ⟨l.1, l.2⟩) 0) :
    (held handle acquire body).Fits .plain := by
  have hacquired : Phrase s!"{handle} = {acquire};" :=
    hhandle.template " = " [acquire] [";"] rfl rfl (by simp [hacquire])
  have hreleased : Phrase s!"unset({handle});" :=
    phrase_template "unset(" [handle] [");"] (by decide) rfl rfl (by simp [hhandle.closed])
  have hinner : Nests 1 ((body.map fun l => (l.1 + 1, l.2)).map fun l => ⟨l.1, l.2⟩) 1 := by
    simpa [Function.comp_def, Int.add_comm] using hbody.raise 1
  have hopened : Nests 0 [⟨0, "\x7b"⟩, ⟨1, s!"{handle} = {acquire};"⟩] 1 :=
    .line "\x7b" [] [] (by decide) rfl rfl (by simp) (.phrase hacquired (.nil 1))
  have hclosed : Nests 1 [⟨1, s!"unset({handle});"⟩, ⟨0, "\x7d"⟩] 0 :=
    .phrase hreleased (.line "\x7d" [] [] (by decide) rfl rfl (by simp) (.nil 0))
  refine fits_lines ?_
  rw [List.map_append, List.map_append]
  exact (hopened.append hinner).append hclosed

/-! ## Settling -/

theorem closed_numberedCounter (n : Nat) : Closed 0 (numberedCounter n) := by
  unfold numberedCounter
  split
  next => rfl
  next => exact Closed.append (rfl : Closed 0 "$i") (closed_natural n)

theorem closed_counter (id : String) (used : Nat) : Closed 0 (counter id used).1 := by
  simp only [counter]
  split
  next => exact closed_numberedCounter used
  next => exact Closed.append (rfl : Closed 0 "$i_") (closed_nameSuffix id)

theorem nests_countedLoop {counter count : String} (hcounter : Closed 0 counter)
    (hcount : Closed 0 count) : Nests 0 [⟨0, countedLoop counter count⟩] 1 :=
  .line "for (" [counter, counter, count, counter] [" = 0; ", " < ", "; ", "++) \x7b"] (by decide)
    rfl rfl (by simp [hcounter, hcount]) (.nil 1)

theorem nests_foreach {collection : String} (h : Closed 0 collection) :
    Nests 0 [⟨0, s!"foreach ({collection} as $item) \x7b"⟩] 1 :=
  .line "foreach (" [collection] [" as $item) \x7b"] (by decide) rfl rfl (by simp [h]) (.nil 1)

/-- What a draft settles to fits the role that the draft fits. -/
theorem Fits.settle {role : Role} {d : Draft} (h : d.Fits role) (c : Context) :
    (d.settle c).1.toBlock.Fits role := by
  cases d with
  | ready e => exact h
  | assign name expression =>
    obtain ⟨rfl, hexpr⟩ := h
    simp only [Draft.settle]
    split
    next => exact fits_nothing
    next => exact fits_statement (phrase_assignment name hexpr)
  | iterate collection name =>
    obtain ⟨rfl, hcollection⟩ := h
    have hopened := nests_foreach hcollection
    have hitem : Phrase (Scope.assignment name "$item") := phrase_assignment name rfl
    simp only [Draft.settle]
    split
    next => exact ⟨⟨rfl, rfl⟩, hopened⟩
    next => exact ⟨⟨rfl, rfl⟩, hopened.append (.phrase hitem (.nil 1))⟩
  | repeated id count =>
    obtain ⟨rfl, hcount⟩ := h
    exact ⟨⟨rfl, rfl⟩, nests_countedLoop (closed_counter id c.counters) hcount⟩

end Draft

end CestExport
