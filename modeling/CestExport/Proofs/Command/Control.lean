import CestExport.Command.Control
import CestExport.Proofs.Command.Role

/-!
# Commands that branch and loop nest

An opener stands at the depth in front of it and leaves one more brace open; a
closer stands outside the brace that it closes, and a branch does both.

    one line begins with the mark of the command, and it is not indented      (marks_beginIf)
-/

namespace CestExport

open Php

/-! ## Algorithm -/

/-- A single line that begins with a mark, at the level at which the block is placed. -/
def Block.ControlLine (mark : String) (b : Block) : Prop :=
  ∃ text, b.lines.filter (fun l => Text.beginsWith mark l.text) = [⟨0, text⟩]

/-- A generator whose drafts settle to blocks with one line that begins with a mark. -/
def Generator.Marks (g : Generator) (mark : String) : Prop :=
  ∀ {settings step d}, g settings step = .ok d →
    ∀ context, (d.settle context).1.toBlock.ControlLine mark

namespace Command

/-- How the line of a command that branches or loops begins. -/
def marks : List (String × String) :=
  [("if", "if ("), ("elseIf", "\x7d elseif ("), ("else", "\x7d else \x7b"), ("end", "\x7d"),
    ("do", "do \x7b"), ("repeatIf", "\x7d while ("), ("while", "while ("),
    ("forEach", "foreach ("), ("times", "for (")]

/-- How the line of a command begins; empty if it neither branches nor loops. -/
def mark (name : String) : String :=
  (marks.lookup name).getD ""

/-! ## Nesting -/

theorem closed_condition (step : Step) : Closed 0 (condition step) :=
  Closed.append (rfl : Closed 0 "(bool) ") (closed_expression step.scriptOrTarget)

theorem fits_bracket {role : Role} {text : String} {d : Draft}
    (hnests : Nests (-role.before) [⟨0, text⟩] role.after)
    (h : bracket text role.before role.after = .ok d) : d.Fits role := by
  cases h
  exact ⟨⟨rfl, rfl⟩, hnests⟩

theorem fits_beginIf : beginIf.Fits .opener := by
  intro settings step d h
  exact fits_bracket (.line "if (" [condition step] [") \x7b"] (by decide) rfl rfl
    (by simp [closed_condition]) (.nil 1)) h

theorem fits_elseIf : elseIf.Fits .branch := by
  intro settings step d h
  exact fits_bracket (.line "\x7d elseif (" [condition step] [") \x7b"] (by decide) rfl rfl
    (by simp [closed_condition]) (.nil 1)) h

theorem fits_otherwise : otherwise.Fits .branch := by
  intro settings step d h
  exact fits_bracket (.line "\x7d else \x7b" [] [] (by decide) rfl rfl (by simp) (.nil 1)) h

theorem fits_endBlock : endBlock.Fits .closer := by
  intro settings step d h
  exact fits_bracket (.line "\x7d" [] [] (by decide) rfl rfl (by simp) (.nil 0)) h

theorem fits_beginDo : beginDo.Fits .opener := by
  intro settings step d h
  exact fits_bracket (.line "do \x7b" [] [] (by decide) rfl rfl (by simp) (.nil 1)) h

theorem fits_repeatIf : repeatIf.Fits .closer := by
  intro settings step d h
  exact fits_bracket (.line "\x7d while (" [condition step] [");"] (by decide) rfl rfl
    (by simp [closed_condition]) (.nil 0)) h

theorem fits_beginWhile : beginWhile.Fits .opener := by
  intro settings step d h
  exact fits_bracket (.line "while (" [condition step] [") \x7b"] (by decide) rfl rfl
    (by simp [closed_condition]) (.nil 1)) h

theorem fits_forEach : forEach.Fits .opener := by
  intro settings step d h
  cases h
  exact ⟨rfl, closed_read step.target⟩

theorem closed_rounds {target count : String} (h : rounds target = .ok count) :
    Closed 0 count := by
  unfold rounds at h
  split at h
  next name _ =>
    cases h
    exact Closed.append (rfl : Closed 0 "(int) ") (closed_read name)
  next =>
    split at h
    next =>
      obtain ⟨n, _, rfl⟩ := map_eq_ok.1 h
      exact closed_decimal n
    next => cases h

theorem fits_times : times.Fits .opener := by
  intro settings step d h
  obtain ⟨count, hcount, rfl⟩ := map_eq_ok.1 h
  exact ⟨rfl, closed_rounds hcount⟩

/-! ## Lines that carry a mark -/

theorem controlLine_of_first {mark text : String} (hmark : Text.beginsWith mark text = true)
    {ls : List Line} (hls : ∀ l ∈ ls, Text.beginsWith mark l.text = false) {before after : Int} :
    Block.ControlLine mark ⟨⟨0, text⟩ :: ls, before, after⟩ := by
  have hrest : ls.filter (fun l => Text.beginsWith mark l.text) = [] := by
    rw [List.filter_eq_nil_iff]
    intro l hl
    simp [hls l hl]
  exact ⟨text, by simp [hmark, hrest]⟩

theorem controlLine_bracket {mark text : String} {before after : Int} {d : Draft}
    (hmark : Text.beginsWith mark text = true) (h : bracket text before after = .ok d)
    (context : Context) : (d.settle context).1.toBlock.ControlLine mark := by
  cases h
  exact controlLine_of_first hmark (by simp)

theorem marks_beginIf : beginIf.Marks "if (" := by
  intro settings step d h context
  exact controlLine_bracket (beginsWith_template "if (" [condition step] [") \x7b"]) h context

theorem marks_elseIf : elseIf.Marks "\x7d elseif (" := by
  intro settings step d h context
  exact controlLine_bracket
    (beginsWith_template "\x7d elseif (" [condition step] [") \x7b"]) h context

theorem marks_otherwise : otherwise.Marks "\x7d else \x7b" := by
  intro settings step d h context
  exact controlLine_bracket (beginsWith_template "\x7d else \x7b" [] []) h context

theorem marks_endBlock : endBlock.Marks "\x7d" := by
  intro settings step d h context
  exact controlLine_bracket (beginsWith_template "\x7d" [] []) h context

theorem marks_beginDo : beginDo.Marks "do \x7b" := by
  intro settings step d h context
  exact controlLine_bracket (beginsWith_template "do \x7b" [] []) h context

theorem marks_repeatIf : repeatIf.Marks "\x7d while (" := by
  intro settings step d h context
  exact controlLine_bracket (beginsWith_template "\x7d while (" [condition step] [");"]) h context

theorem marks_beginWhile : beginWhile.Marks "while (" := by
  intro settings step d h context
  exact controlLine_bracket (beginsWith_template "while (" [condition step] [") \x7b"]) h context

theorem marks_forEach : forEach.Marks "foreach (" := by
  intro settings step d h context
  cases h
  have hopening := beginsWith_template "foreach (" [read step.target] [" as $item) \x7b"]
  have hitem : Text.beginsWith "foreach (" (Scope.assignment step.value "$item") = false :=
    beginsWith_eq_false rfl (head?_assignment step.value "$item") (by decide)
  simp only [Draft.settle]
  split
  next => exact controlLine_of_first hopening (by simp)
  next => exact controlLine_of_first hopening (by simp [hitem])

theorem marks_times : times.Marks "for (" := by
  intro settings step d h context
  obtain ⟨count, _, rfl⟩ := map_eq_ok.1 h
  refine controlLine_of_first ?_ (by simp)
  exact beginsWith_template "for (" [_, _, count, _] [" = 0; ", " < ", "; ", "++) \x7b"]

end Command

end CestExport
