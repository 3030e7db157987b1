import CestExport.Registry
import CestExport.Proofs.Command.Standard

/-!
# What the default registry generates

A step is generated by the standard command of its name, and possibly wrapped for
a window.  What comes out shifts the level as the command's role says, consists
of closed statements, and opens as many braces as it shifts.

    default.canEmit m  ↔  m names a standard command                        (canEmit_default)
    (default.emit c s).1 = .ok e  →  e.toBlock.Shifts (Role.of s.name)        (shifts_emit)
-/

namespace CestExport

open Php

/-! ## Windows -/

theorem Scope.write_of_ne_empty {name : String} (h : name ≠ "") (scope : Scope)
    (expression : String) :
    scope.write name expression = (assignment name expression, scope.record name) :=
  if_neg h

namespace Window

theorem phrase_snapshot : Phrase (Scope.assignment Scope.windowHandlesSlot allHandles) :=
  phrase_assignment _ rfl

theorem phrase_wait (step : Step) {seconds : String} (h : Closed 0 seconds) (scope : Scope) :
    Phrase (wait step seconds scope).1 := by
  have hcall : Phrase s!"$this->waitForWindow($I, {seconds})" :=
    phrase_template "$this->waitForWindow($I, " [seconds] [")"] (by decide) rfl rfl (by simp [h])
  simp only [wait]
  split
  next => exact hcall.append rfl
  next hname =>
    rw [Scope.write_of_ne_empty hname]
    exact phrase_assignment step.windowHandleName hcall.closed

/-- A wrapped emission has a statement in front and one behind. -/
theorem wrap_eq_ok {step : Step} {e : Emission} {scope scope' : Scope} {b : Block}
    (h : wrap step e scope = .ok (b, scope')) : ∃ seconds scope'',
      timeout step = .ok seconds ∧
      b = ⟨⟨0, Scope.assignment Scope.windowHandlesSlot allHandles⟩ :: e.toBlock.lines ++
        [⟨0, (wait step seconds scope'').1⟩], e.toBlock.before, e.toBlock.after⟩ := by
  obtain ⟨seconds, hseconds, hb⟩ := map_eq_ok.1 h
  cases hb
  exact ⟨seconds, _, hseconds, rfl⟩

theorem closed_wrap {step : Step} {e : Emission} {scope scope' : Scope} {b : Block}
    (h : wrap step e scope = .ok (b, scope'))
    (hclosed : ∀ l ∈ e.toBlock.lines, ∃ k, Closed k l.text) :
    ∀ l ∈ b.lines, ∃ k, Closed k l.text := by
  obtain ⟨seconds, scope'', hseconds, rfl⟩ := wrap_eq_ok h
  have hwait := phrase_wait step (closed_seconds hseconds) scope''
  intro l hl
  rcases List.mem_append.1 hl with hl | hl
  · rcases List.mem_cons.1 hl with rfl | hl
    · exact ⟨0, phrase_snapshot.closed⟩
    · exact hclosed l hl
  · obtain rfl := List.mem_singleton.1 hl
    exact ⟨0, hwait.closed⟩

theorem braces_wrap {step : Step} {e : Emission} {scope scope' : Scope} {b : Block}
    (h : wrap step e scope = .ok (b, scope')) : braces b.lines = braces e.toBlock.lines := by
  obtain ⟨seconds, scope'', hseconds, rfl⟩ := wrap_eq_ok h
  have hwait := phrase_wait step (closed_seconds hseconds) scope''
  show braces (_ :: e.toBlock.lines ++ _) = _
  rw [List.cons_append, phrase_snapshot.braces_eq, braces_append, hwait.braces_eq, braces_nil,
    Int.add_zero]

theorem head?_wait (step : Step) (seconds : String) (scope : Scope) :
    (wait step seconds scope).1.toList.head? = some '$' := by
  simp only [wait]
  split
  next => exact head?_append (head?_append (head?_append rfl seconds) ")") ";"
  next hname =>
    rw [Scope.write_of_ne_empty hname]
    exact head?_assignment step.windowHandleName _

/-- The statements around a wrapped emission do not begin with the mark of a command. -/
theorem controlLine_wrap {step : Step} {e : Emission} {scope scope' : Scope} {b : Block}
    {mark : String} {c : Char} (h : wrap step e scope = .ok (b, scope'))
    (hmark : mark.toList.head? = some c) (hc : c ≠ '$') (hline : e.toBlock.ControlLine mark) :
    b.ControlLine mark := by
  obtain ⟨seconds, scope'', _, rfl⟩ := wrap_eq_ok h
  obtain ⟨text, htext⟩ := hline
  have hsnapshot := beginsWith_eq_false hmark
    (head?_assignment Scope.windowHandlesSlot allHandles) hc
  have hwait := beginsWith_eq_false hmark (head?_wait step seconds scope'') hc
  refine ⟨text, ?_⟩
  show List.filter _ (_ :: e.toBlock.lines ++ _) = _
  rw [List.cons_append, List.filter_cons_of_neg (by simp [hsnapshot]), List.filter_append, htext,
    List.filter_cons_of_neg (by simp [hwait]), List.filter_nil, List.append_nil]

end Window

namespace Registry

/-! ## The default registry -/

theorem find?_addStandard {r : Registry} {commands : List Command.Standard} {m : String}
    {e : Emitter} (h : (r.addStandard commands).find? m = some e) :
    (∃ c ∈ commands, c.name = m ∧ e = c.generator.emitter) ∨ r.find? m = some e := by
  induction commands generalizing r with
  | nil => exact .inr h
  | cons c cs ih =>
    rcases ih h with ⟨d, hd, hname, he⟩ | hr
    · exact .inl ⟨d, List.mem_cons_of_mem c hd, hname, he⟩
    · rw [find?_set] at hr
      split at hr
      next hm =>
        cases hr
        exact .inl ⟨c, List.mem_cons_self, hm.symm, rfl⟩
      next => exact .inr hr

theorem isSome_find?_addStandard {r : Registry} {commands : List Command.Standard} {m : String}
    (h : (∃ c ∈ commands, c.name = m) ∨ (r.find? m).isSome) :
    ((r.addStandard commands).find? m).isSome := by
  induction commands generalizing r with
  | nil => simpa [addStandard] using h
  | cons c cs ih =>
    refine ih ?_
    rw [find?_set]
    rcases h with ⟨d, hd, rfl⟩ | hr
    · rcases List.mem_cons.1 hd with rfl | hd
      · exact .inr (by simp)
      · exact .inl ⟨d, hd, rfl⟩
    · right
      split
      next => rfl
      next => exact hr

theorem find?_default {m : String} {e : Emitter} (h : default.find? m = some e) :
    ∃ c ∈ Command.standard, c.name = m ∧ e = c.generator.emitter := by
  rcases find?_addStandard h with hc | hr
  · exact hc
  · cases hr

theorem canEmit_default {m : String} :
    default.canEmit m = true ↔ ∃ c ∈ Command.standard, c.name = m := by
  have hfind : default.canEmit m = (default.find? m).isSome := by
    simp [canEmit, find?]
  rw [hfind]
  constructor
  · intro h
    obtain ⟨e, he⟩ := Option.isSome_iff_exists.1 h
    obtain ⟨c, hc, hname, _⟩ := find?_default he
    exact ⟨c, hc, hname⟩
  · intro h
    exact isSome_find?_addStandard (.inl h)

/-- A step that opens no window stays as it is; another one is wrapped, or fails. -/
theorem finish_cases (step : Step) (e : Emission) (context : Context) :
    (step.opensWindow = false ∧ finish step e context = (.ok e, context)) ∨
    (step.opensWindow = true ∧ ∃ b scope, Window.wrap step e context.scope = .ok (b, scope) ∧
      finish step e context = (.ok (.block b), { context with scope := scope })) ∨
    (∃ f, finish step e context = (.error f, context)) := by
  unfold finish
  split
  next hopens =>
    split
    next b scope hwrap => exact .inr (.inl ⟨hopens, b, scope, hwrap, rfl⟩)
    next f _ => exact .inr (.inr ⟨f, rfl⟩)
  next hopens => exact .inl ⟨by simpa using hopens, rfl⟩

/-- What a step ends in that is finished well: the emission itself, or what wraps it. -/
theorem finish_eq_ok {step : Step} {e e' : Emission} {context : Context}
    (h : (finish step e context).1 = .ok e') :
    (step.opensWindow = false ∧ e' = e) ∨
    (step.opensWindow = true ∧ ∃ b scope,
      Window.wrap step e context.scope = .ok (b, scope) ∧ e' = .block b) := by
  rcases finish_cases step e context with
    ⟨hopens, hfinish⟩ | ⟨hopens, b, scope, hwrap, hfinish⟩ | ⟨f, hfinish⟩
  · rw [hfinish] at h
    cases h
    exact .inl ⟨hopens, rfl⟩
  · rw [hfinish] at h
    cases h
    exact .inr ⟨hopens, b, scope, hwrap, rfl⟩
  · simp [hfinish] at h

/-- All that the generation of a step can do: an unknown command generates nothing, a standard
command fails, or its draft is settled and finished. -/
theorem emit_cases (context : Context) (step : Step) :
    (default.canEmit step.name = false ∧ default.emit context step = (.ok .nothing, context)) ∨
    ∃ c ∈ Command.standard, c.name = step.name ∧
      ((∃ f, default.emit context step = (.error f, context)) ∨
        ∃ d, c.generator context.settings step = .ok d ∧
          default.emit context step = finish step (d.settle context).1 (d.settle context).2) := by
  unfold emit
  cases hfind : default.find? step.name with
  | none => exact .inl ⟨by simpa [canEmit, find?] using hfind, rfl⟩
  | some emitter =>
    obtain ⟨c, hc, hname, rfl⟩ := find?_default hfind
    refine .inr ⟨c, hc, hname, ?_⟩
    cases hd : c.generator context.settings step with
    | error f => exact .inl ⟨f, by simp [Generator.emitter, hd, Except.map]⟩
    | ok d => exact .inr ⟨d, rfl, by simp [Generator.emitter, hd, Except.map]⟩

/-- What is generated for a step: nothing, or what a standard command drafts, possibly wrapped. -/
theorem emit_default {context : Context} {step : Step} {e : Emission}
    (h : (default.emit context step).1 = .ok e) :
    (default.canEmit step.name = false ∧ e = .nothing) ∨
    ∃ c ∈ Command.standard, c.name = step.name ∧
      ∃ d, c.generator context.settings step = .ok d ∧
        (e = (d.settle context).1 ∨ ∃ scope scope' b,
          Window.wrap step (d.settle context).1 scope = .ok (b, scope') ∧ e = .block b) := by
  rcases emit_cases context step with ⟨hno, hemit⟩ | ⟨c, hc, hname, ⟨f, hemit⟩ | ⟨d, hd, hemit⟩⟩
  · rw [hemit] at h
    cases h
    exact .inl ⟨hno, rfl⟩
  · simp [hemit] at h
  · refine .inr ⟨c, hc, hname, d, hd, ?_⟩
    rw [hemit] at h
    rcases finish_eq_ok h with ⟨_, rfl⟩ | ⟨_, b, scope', hwrap, rfl⟩
    · exact .inl rfl
    · exact .inr ⟨_, scope', b, hwrap, rfl⟩

/-! ## Shifts -/

/-- A draft of a standard command settles to a block that shifts as the command's role says. -/
theorem shifts_settle {c : Command.Standard} (hc : c ∈ Command.standard) {settings : Settings}
    {step : Step} {d : Draft} (hd : c.generator settings step = .ok d) (context : Context) :
    (d.settle context).1.toBlock.Shifts (Role.of c.name) := by
  rcases Command.fits_of_mem_standard hc with ⟨hname, hgenerator⟩ | hfits
  · rw [hname]
    rw [hgenerator] at hd
    exact Command.shifts_sendKeys hd context
  · exact ((hfits hd).settle context).toShifts

theorem shifts_emit {context : Context} {step : Step} {e : Emission}
    (h : (default.emit context step).1 = .ok e) :
    e.toBlock.Shifts (Role.of step.name) := by
  rcases emit_default h with ⟨hno, rfl⟩ | ⟨c, hc, hname, d, hd, he⟩
  · have hplain : Role.of step.name = .plain := by
      refine Decidable.byContradiction fun hrole => ?_
      rw [canEmit_default.2 (Command.exists_standard_of_role hrole)] at hno
      simp at hno
    rw [hplain]
    exact ⟨rfl, rfl⟩
  · rw [← hname]
    have hshifts := shifts_settle hc hd context
    rcases he with rfl | ⟨scope, scope', b, hwrap, rfl⟩
    · exact hshifts
    · obtain ⟨_, _, _, rfl⟩ := Window.wrap_eq_ok hwrap
      exact ⟨hshifts.before, hshifts.after⟩

/-- The line that opens, continues or closes a block stands where its emission is placed. -/
theorem controlLine_emit {context : Context} {step : Step} {e : Emission}
    (h : (default.emit context step).1 = .ok e) (hrole : Role.of step.name ≠ .plain) :
    e.toBlock.ControlLine (Command.mark step.name) := by
  rcases emit_default h with ⟨hno, rfl⟩ | ⟨c, hc, hname, d, hd, he⟩
  · rw [canEmit_default.2 (Command.exists_standard_of_role hrole)] at hno
    simp at hno
  · rw [← hname] at hrole ⊢
    have hline := Command.marks_of_mem_standard hc hrole hd context
    rcases he with rfl | ⟨scope, scope', b, hwrap, rfl⟩
    · exact hline
    · obtain ⟨first, hfirst, hdollar⟩ := Command.head?_mark hrole
      exact Window.controlLine_wrap hwrap hfirst hdollar hline

/-! ## Braces -/

/-- Whatever is generated for a step, but for the names of keys, is closed, and opens as many
braces as it shifts the level. -/
theorem braces_emit {context : Context} {step : Step} {e : Emission}
    (hemit : (default.emit context step).1 = .ok e)
    (hkeys : step.name = "sendKeys" →
      ∀ k, Keys.keyMark ++ k ∉ Template.references (Template.pieces step.value)) :
    (∀ l ∈ e.toBlock.lines, ∃ k, Closed k l.text) ∧
      braces e.toBlock.lines = e.toBlock.before + e.toBlock.after := by
  rcases emit_default hemit with ⟨_, rfl⟩ | ⟨c, hc, hname, d, hd, he⟩
  · simp [Emission.toBlock, braces]
  · have hdraft : d.Fits (Role.of c.name) := by
      rcases Command.fits_of_mem_standard hc with ⟨hsend, hgenerator⟩ | hfits
      · rw [hgenerator] at hd
        rw [hsend]
        refine Command.fits_sendKeys (fun k hk => ?_) hd
        exact hkeys (hname ▸ hsend) k (Keys.key_mem_split.1 hk)
      · exact hfits hd
    have hfits := hdraft.settle context
    have hclosed := hfits.nests.closed
    have hbraces : braces (d.settle context).1.toBlock.lines =
        (d.settle context).1.toBlock.before + (d.settle context).1.toBlock.after := by
      rw [hfits.nests.braces_eq, hfits.before, hfits.after]
      omega
    rcases he with rfl | ⟨scope, scope', b, hwrap, rfl⟩
    · exact ⟨hclosed, hbraces⟩
    · refine ⟨Window.closed_wrap hwrap hclosed, ?_⟩
      show braces b.lines = b.before + b.after
      rw [Window.braces_wrap hwrap, hbraces]
      obtain ⟨_, _, _, rfl⟩ := Window.wrap_eq_ok hwrap
      rfl

/-- Typed text with quotes and brackets of its own, in a step that opens a window. -/
theorem braces_emit_typedCode :
    let step : Step :=
      { name := "sendKeys", target := "id=a", value := "$\x7buser\x7d');\x7d", opensWindow := true }
    ∃ e, (default.emit {} step).1 = .ok e ∧ (∀ l ∈ e.toBlock.lines, ∃ k, Closed k l.text) ∧
      braces e.toBlock.lines = e.toBlock.before + e.toBlock.after := by
  intro step
  have hemit : (default.emit {} step).1 = .ok (.block ⟨[
      ⟨0, "$this->vars['windowHandles'] = $this->windowHandles($I);"⟩,
      ⟨0, "$I->pressKey(WebDriverBy::id('a'), $this->vars['user'], '\\');\x7d');"⟩,
      ⟨0, "$this->waitForWindow($I, 2);"⟩], 0, 0⟩) :=
    toOption_eq_some.1 (by decide +kernel)
  have hkeys : ∀ k, Keys.keyMark ++ k ∉ Template.references (Template.pieces step.value) := by
    have hreferences : Template.references (Template.pieces step.value) = ["user"] := by
      decide +kernel
    intro k hk
    rw [hreferences, List.mem_singleton] at hk
    have hafter : Text.after? Keys.keyMark "user" = some k := Keys.after?_eq_some.2 hk.symm
    simp [show Text.after? Keys.keyMark "user" = none by decide] at hafter
  exact ⟨_, hemit, braces_emit hemit fun _ => hkeys⟩

end Registry

end CestExport
