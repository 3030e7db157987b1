import CestExport.Proofs.Command.Assignment
import CestExport.Proofs.Counter

/-!
# What a step leaves in the context

A step that is generated advances the context: it records the variables that it
assigns, and numbers a loop if the step opens one without a name.  It does so in
every context with the same settings, and what it generates depends on how many
loops were numbered before, but never on the variables assigned before.

    (d.settle c).2 = c.advance d.names d.loops                               (settle_advance)
    default.emit c s = .ok e  →  in every context with these settings the step assigns
      the same variables, and generates e if as many loops are numbered       (emit_advance)
-/

namespace CestExport

open Php

/-! ## Algorithm -/

/-- The scope after assignments to variables, in order. -/
def Scope.recordAll (scope : Scope) (names : List String) : Scope :=
  ⟨addAllNew scope.written names⟩

/-- The context after variables were assigned and loops numbered. -/
def Context.advance (c : Context) (names : List String) (loops : Nat) : Context :=
  { c with scope := c.scope.recordAll names, counters := c.counters + loops }

/-- How many loops a draft has numbered. -/
def Draft.loops : Draft → Nat
  | repeated id _ => if nameSuffix id = "" then 1 else 0
  | ready _ | assign _ _ | iterate _ _ => 0

/-- Whether a step opens a loop whose counter is numbered, its id having no name character. -/
def Step.isNumbered (s : Step) : Bool :=
  s.name == "times" && nameSuffix s.id == ""

/-- The variables that the statements around a step assign, if it opens a window. -/
def Step.windowNames (s : Step) : List String :=
  if s.opensWindow then
    Scope.windowHandlesSlot :: if s.windowHandleName = "" then [] else [s.windowHandleName]
  else []

/-! ## Contexts -/

theorem Context.advance_advance (c : Context) (names more : List String) (m n : Nat) :
    (c.advance names m).advance more n = c.advance (names ++ more) (m + n) := by
  simp [advance, Scope.recordAll, addAllNew_append, Nat.add_assoc]

/-! ## Drafts -/

namespace Draft

/-- Settling records the variables of a draft and numbers its loop. -/
theorem settle_advance (d : Draft) (c : Context) : (d.settle c).2 = c.advance d.names d.loops := by
  cases d with
  | ready e => rfl
  | assign name expression | iterate _ name =>
    simp only [settle, names, loops]
    split <;> rfl
  | repeated id count =>
    by_cases hid : nameSuffix id = ""
    · simp only [settle, names, loops, counter_of_empty hid, if_pos hid]
      rfl
    · simp only [settle, names, loops, counter_of_ne_empty hid, if_neg hid]
      rfl

/-- What a draft settles to depends on the context only in how many loops are numbered. -/
theorem settle_of_counters (d : Draft) {c c' : Context} (h : c'.counters = c.counters) :
    (d.settle c').1 = (d.settle c).1 := by
  cases d with
  | ready e => rfl
  | assign name expression | iterate _ name =>
    simp only [settle]
    split <;> rfl
  | repeated id count => simp only [settle, h]

end Draft

/-! ## Windows -/

namespace Window

/-- An emission between the two statements for a window. -/
def around (step : Step) (seconds : String) (e : Emission) : Emission :=
  .block ⟨⟨0, Scope.assignment Scope.windowHandlesSlot allHandles⟩ :: e.toBlock.lines ++
    [⟨0, (wait step seconds {}).1⟩], e.toBlock.before, e.toBlock.after⟩

theorem wrap_eq {step : Step} (h : step.opensWindow = true) (e : Emission) (scope : Scope) :
    wrap step e scope = (timeout step).map fun seconds =>
      ((around step seconds e).toBlock, scope.recordAll step.windowNames) := by
  unfold wrap
  congr 1
  funext seconds
  by_cases hname : step.windowHandleName = ""
  · simp [around, wait, Step.windowNames, h, hname, Scope.write, Scope.windowHandlesSlot,
      Emission.toBlock, Scope.recordAll, addAllNew, Scope.record]
  · simp [around, wait, Step.windowNames, h, hname, Scope.write, Scope.windowHandlesSlot,
      Emission.toBlock, Scope.recordAll, addAllNew, Scope.record]

/-- The wait assigns the variable that the step names for its window, if it names one. -/
theorem assigns_wait (step : Step) (seconds n : String) :
    Php.Assigns (wait step seconds {}).1 n ↔ n ≠ "" ∧ n = step.windowHandleName := by
  by_cases hname : step.windowHandleName = ""
  · have hcall : Unread s!"$this->waitForWindow($I, {seconds})" :=
      unread_template "$this->waitForWindow($I, " [seconds] [")"] ⟨rfl, rfl⟩
    rw [wait, if_pos hname, hname]
    exact iff_of_false ((hcall.append ";").not_assigns n) fun h => h.1 h.2
  · rw [wait, if_neg hname, Scope.write_of_ne_empty hname]
    exact assigns_assignment.trans ⟨fun h => ⟨h ▸ hname, h⟩, And.right⟩

theorem mem_windowNames {step : Step} {n : String} : n ∈ step.windowNames ↔
    step.opensWindow = true ∧
      (n = Scope.windowHandlesSlot ∨ (n ≠ "" ∧ n = step.windowHandleName)) := by
  cases hopens : step.opensWindow with
  | false => simp [Step.windowNames, hopens]
  | true =>
    by_cases hname : step.windowHandleName = ""
    · simp [Step.windowNames, hopens, hname]
    · have hn : (n ≠ "" ∧ n = step.windowHandleName) ↔ n = step.windowHandleName :=
        and_iff_right_of_imp fun h => h ▸ hname
      simp [Step.windowNames, hopens, hname, hn]

/-- The statements for a window assign the known handles, and the new one if it has a name. -/
theorem assigns_around {step : Step} (h : step.opensWindow = true) (seconds : String)
    (e : Emission) (n : String) :
    (around step seconds e).Assigns n ↔ e.Assigns n ∨ n ∈ step.windowNames := by
  have hlines : (around step seconds e).Assigns n ↔
      n = Scope.windowHandlesSlot ∨ e.Assigns n ∨ Php.Assigns (wait step seconds {}).1 n := by
    simp [Emission.Assigns, around, Emission.toBlock, assigns_assignment, or_and_right, exists_or]
  rw [hlines, assigns_wait, mem_windowNames]
  simp only [h, true_and]
  exact or_left_comm

end Window

/-! ## Steps -/

namespace Registry

/-- Finishing a step records the variables of its window; it fails or succeeds in all contexts
alike, whatever was generated. -/
theorem finish_advance {step : Step} {e e' : Emission} {c : Context}
    (h : (finish step e c).1 = .ok e') :
    (∀ n, e'.Assigns n ↔ e.Assigns n ∨ n ∈ step.windowNames) ∧
    ∀ x c', ∃ x', finish step x c' = (.ok x', c'.advance step.windowNames 0) ∧
      (x = e → x' = e') := by
  cases hopens : step.opensWindow with
  | false =>
    have hnames : step.windowNames = [] := by simp [Step.windowNames, hopens]
    simp only [finish, hopens, Bool.false_eq_true, if_false] at h ⊢
    cases h
    rw [hnames]
    exact ⟨by simp, fun x c' => ⟨x, rfl, id⟩⟩
  | true =>
    simp only [finish, hopens, if_true, Window.wrap_eq hopens] at h ⊢
    cases hseconds : Window.timeout step with
    | error f => simp [hseconds, Except.map] at h
    | ok seconds =>
      simp only [hseconds, Except.map] at h ⊢
      cases h
      refine ⟨Window.assigns_around hopens seconds e, fun x c' => ⟨_, rfl, ?_⟩⟩
      rintro rfl
      rfl

/-- Only `times` numbers a loop, and only if the id of its step gives no name. -/
theorem loops_of_mem_standard {c : Command.Standard} (hc : c ∈ Command.standard)
    {settings : Settings} {step : Step} (hname : c.name = step.name) {d : Draft}
    (hd : c.generator settings step = .ok d) : d.loops = step.isNumbered.toNat := by
  by_cases htimes : step.name = "times"
  · rw [generator_of_times hc (hname.trans htimes)] at hd
    obtain ⟨count, _, rfl⟩ := map_eq_ok.1 hd
    by_cases hid : nameSuffix step.id = ""
    · simp [Draft.loops, Step.isNumbered, htimes, hid]
    · simp [Draft.loops, Step.isNumbered, htimes, hid, beq_eq_false_iff_ne.2 hid]
  · have hstep : step.isNumbered = false := by simp [Step.isNumbered, htimes]
    have hplain : d.Fits .plain → d.loops = 0 := by
      intro hfits
      cases d with
      | ready e | assign name expression | iterate collection name => rfl
      | repeated id count => cases hfits.1
    have hbracket : ∀ {text before after}, Command.bracket text before after = .ok d →
        d.loops = 0 := by
      intro text before after h
      cases h
      rfl
    have hforEach : Command.forEach settings step = .ok d → d.loops = 0 := by
      intro h
      cases h
      rfl
    have hcontrol : ∀ c ∈ Command.control, c.name ≠ "times" →
        c.generator settings step = .ok d → d.loops = 0 := by
      simp only [Command.control, List.forall_mem_cons, List.not_mem_nil, false_implies,
        implies_true, and_true]
      exact ⟨fun _ => hbracket, fun _ => hbracket, fun _ => hbracket, fun _ => hbracket,
        fun _ => hbracket, fun _ => hbracket, fun _ => hbracket, fun _ => hforEach,
        fun h => absurd rfl h⟩
    rw [hstep]
    rcases Command.calm_of_mem_standard hc with hmem | ⟨_, ⟨_, hsend⟩ | hfits⟩
    · exact hcontrol c hmem (hname ▸ htimes) hd
    · rw [hsend] at hd
      obtain ⟨by_, _, rfl⟩ := map_eq_ok.1 hd
      rfl
    · exact hplain (hfits hd)

/-- A step that numbers a loop has a standard command. -/
theorem isNumbered_of_unknown {step : Step} (h : default.canEmit step.name = false) :
    step.isNumbered = false := by
  have htimes : step.name ≠ "times" := by
    intro htimes
    rw [htimes, canEmit_default.2 (Command.exists_standard_of_role (by decide))] at h
    cases h
  simp [Step.isNumbered, htimes]

/-- What a step does to the context when it is generated: it assigns the same variables in every
context with the same settings, and numbers a loop if it needs a counter.  The emission depends on
nothing but the count of numbered loops, and assigns just these variables. -/
theorem emit_advance {c : Context} {step : Step} {e : Emission}
    (h : (default.emit c step).1 = .ok e) :
    ∃ names, (∀ n, e.Assigns n ↔ n ∈ names) ∧
      ∀ c', c'.settings = c.settings → ∃ e',
        default.emit c' step = (.ok e', c'.advance names step.isNumbered.toNat) ∧
          (c'.counters = c.counters → e' = e) := by
  cases hfind : default.find? step.name with
  | none =>
    have hunknown : default.canEmit step.name = false := by simpa [canEmit, find?] using hfind
    simp only [emit, hfind] at h ⊢
    cases h
    refine ⟨[], by simp [Emission.Assigns, Emission.toBlock], fun c' _ => ⟨.nothing, ?_, ?_⟩⟩
    · rw [isNumbered_of_unknown hunknown]
      rfl
    · exact fun _ => rfl
  | some emitter =>
    obtain ⟨standard, hstandard, hname, rfl⟩ := find?_default hfind
    simp only [emit, hfind, Generator.emitter] at h ⊢
    cases hd : standard.generator c.settings step with
    | error f => simp [hd, Except.map] at h
    | ok d =>
      simp only [hd, Except.map] at h
      obtain ⟨hassigns, hfinish⟩ := finish_advance h
      have hquiet := Command.quiet_of_mem_standard hstandard c.settings step d hd
      refine ⟨d.names ++ step.windowNames, ?_, ?_⟩
      · intro n
        rw [hassigns, Draft.assigns_settle hquiet, List.mem_append]
      · intro c' hsettings
        rw [hsettings, hd]
        obtain ⟨e', he', hsame⟩ := hfinish (d.settle c').1 (d.settle c').2
        refine ⟨e', ?_, fun hcounters => hsame (d.settle_of_counters hcounters)⟩
        simp only [Except.map]
        rw [he', d.settle_advance, Context.advance_advance, Nat.add_zero,
          loops_of_mem_standard hstandard hname hd]

end Registry

end CestExport
