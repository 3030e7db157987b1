import CestExport.Proofs.Export.Test
import CestExport.Proofs.KeyInput
import CestExport.Proofs.Php.Indentation

/-!
# When a test is indented by its braces

Levels and braces come from different places: a block shifts the level, its texts
open and close braces.  For the commands themselves the two agree.  The statements
around a step that opens a window stand at the level of its block, which is the
depth around them only if the step neither opens nor closes a block.

    laid out blocks are indented  ↔  each of them is by itself          (indented_layFrom)
    what wraps a block of a role is indented  ↔  the role is plain         (indented_wrap)
    no error in lint  →  the test is indented by its braces  ↔
      only plain steps open windows                                     (indented_lay_iff)
-/

namespace CestExport

open Php

/-! ## Algorithm -/

/-- A block whose lines are indented wherever it is placed; empty texts are dropped. -/
def Block.Indented (b : Block) : Prop :=
  Php.Indented (-b.before) (b.lines.filter (·.text != ""))

/-- A block that opens as many braces as it shifts the level. -/
def Block.Balanced (b : Block) : Prop :=
  braces b.lines = b.before + b.after

/-! ## Blocks -/

theorem Block.Fits.balanced {role : Role} {b : Block} (h : b.Fits role) : b.Balanced := by
  rw [Block.Balanced, h.nests.braces_eq, h.before, h.after]
  omega

theorem Block.Fits.indented {role : Role} {b : Block} (h : b.Fits role) : b.Indented := by
  rw [Block.Indented, h.before]
  exact h.nests.indented.filter_ne_empty

/-- Only plain commands shift the level neither in front of themselves nor behind. -/
theorem Role.eq_plain_iff {role : Role} : role = .plain ↔ role.before = 0 ∧ role.after = 0 := by
  cases role <;> simp [Role.before, Role.after]

namespace Window

theorem balanced_wrap {step : Step} {e : Emission} {scope scope' : Scope} {b : Block}
    (h : wrap step e scope = .ok (b, scope')) (he : e.toBlock.Balanced) : b.Balanced := by
  rw [Block.Balanced, braces_wrap h, he]
  obtain ⟨_, _, _, rfl⟩ := wrap_eq_ok h
  rfl

/-- The statement in front stands right if the level is not shifted in front of the block, the
statement behind if it is not shifted there. -/
theorem indented_wrap {step : Step} {e : Emission} {scope scope' : Scope} {b : Block} {role : Role}
    (h : wrap step e scope = .ok (b, scope')) (he : e.toBlock.Fits role) :
    b.Indented ↔ role = .plain := by
  obtain ⟨seconds, scope'', hseconds, rfl⟩ := wrap_eq_ok h
  have hwait := phrase_wait step (closed_seconds hseconds) scope''
  have hlines : (⟨0, Scope.assignment Scope.windowHandlesSlot allHandles⟩ :: e.toBlock.lines ++
        [⟨0, (wait step seconds scope'').1⟩] : List Line).filter (·.text != "") =
      ⟨0, Scope.assignment Scope.windowHandlesSlot allHandles⟩ ::
        (e.toBlock.lines.filter (·.text != "") ++ [⟨0, (wait step seconds scope'').1⟩]) := by
    simp [phrase_snapshot.ne_empty, hwait.ne_empty]
  have hbraces : braces (e.toBlock.lines.filter (·.text != "")) = role.before + role.after := by
    rw [braces_filter_ne_empty, he.balanced, he.before, he.after]
  have hinner : Php.Indented (-role.before) (e.toBlock.lines.filter (·.text != "")) := by
    rw [← he.before]
    exact he.indented
  rw [Block.Indented, hlines, indented_phrase phrase_snapshot, indented_append,
    indented_phrase hwait, hbraces, he.before, Role.eq_plain_iff]
  constructor
  · rintro ⟨hbefore, _, hafter, _⟩
    omega
  · rintro ⟨hbefore, hafter⟩
    exact ⟨by omega, hinner, by omega, indented_nil _⟩

end Window

/-! ## Keys -/

/-- The constant for a key that names an identifier. -/
theorem Keys.closed_constant {k : String}
    (h : isIdentifier (Text.upper (Text.trim k)).toList = true) : Closed 0 (constant k) := by
  rw [← isIdentifier_constantName] at h
  have hname : Closed 0 (String.ofList (constantName k)) := by
    refine closed_of_nameChars ?_
    rw [String.toList_ofList]
    exact isNameChar_of_isIdentifier h
  rw [constantName, String.ofList_toList] at hname
  exact Closed.append (rfl : Closed 0 "WebDriverKeys::") hname

/-- Key input is closed if all its keys name identifiers. -/
theorem Keys.closed_of_identifiers {s : String}
    (h : ∀ k, .key k ∈ split s → isIdentifier (Text.upper (Text.trim k)).toList = true) :
    Closed 0 (arguments (split s)) :=
  closed_arguments fun k hk => closed_constant (h k hk)

/-! ## Steps -/

namespace Registry

/-- What is generated for a known step: a block of the step's role, wrapped if the step opens a
window. -/
theorem fits_emit {context : Context} {step : Step} {e : Emission}
    (h : (default.emit context step).1 = .ok e) (hcan : default.canEmit step.name = true)
    (hkeys : step.name = "sendKeys" → Closed 0 (Keys.arguments (Keys.split step.value))) :
    ∃ inner : Emission, inner.toBlock.Fits (Role.of step.name) ∧
      ((step.opensWindow = false ∧ e = inner) ∨
        (step.opensWindow = true ∧ ∃ scope scope' b,
          Window.wrap step inner scope = .ok (b, scope') ∧ e = .block b)) := by
  rcases emit_cases context step with ⟨hno, _⟩ | ⟨c, hc, hname, ⟨f, hemit⟩ | ⟨d, hd, hemit⟩⟩
  · simp [hcan] at hno
  · simp [hemit] at h
  · have hdraft : d.Fits (Role.of c.name) := by
      rcases Command.fits_of_mem_standard hc with ⟨hsend, hgenerator⟩ | hfits
      · rw [hgenerator] at hd
        rw [hsend]
        exact Command.fits_sendKeys_of_closed (hkeys (hname ▸ hsend)) hd
      · exact hfits hd
    refine ⟨(d.settle context).1, hname ▸ hdraft.settle context, ?_⟩
    rw [hemit] at h
    rcases finish_eq_ok h with ⟨hopens, rfl⟩ | ⟨hopens, b, scope', hwrap, rfl⟩
    · exact .inl ⟨hopens, rfl⟩
    · exact .inr ⟨hopens, _, scope', b, hwrap, rfl⟩

/-- A known step is balanced and closed, and indented unless it opens a window and shifts the
level. -/
theorem indented_emit {context : Context} {step : Step} {e : Emission}
    (h : (default.emit context step).1 = .ok e) (hcan : default.canEmit step.name = true)
    (hkeys : step.name = "sendKeys" → Closed 0 (Keys.arguments (Keys.split step.value))) :
    e.toBlock.Balanced ∧ (∀ l ∈ e.toBlock.lines, ∃ k, Closed k l.text) ∧
      (e.toBlock.Indented ↔ (step.opensWindow = true → Role.of step.name = .plain)) := by
  obtain ⟨inner, hfits, ⟨hopens, rfl⟩ | ⟨hopens, scope, scope', b, hwrap, rfl⟩⟩ :=
    fits_emit h hcan hkeys
  · exact ⟨hfits.balanced, hfits.nests.closed, by simp [hopens, hfits.indented]⟩
  · refine ⟨Window.balanced_wrap hwrap hfits.balanced, Window.closed_wrap hwrap hfits.nests.closed,
      ?_⟩
    show b.Indented ↔ _
    rw [Window.indented_wrap hwrap hfits, hopens]
    simp

end Registry

/-! ## Layout -/

namespace Layout

/-- Balanced blocks keep the depth at the surrounding level, so that each of them is indented if
and only if it is by itself. -/
theorem indented_layFrom {a : Int} {es : List Emission} (hlevels : ∀ p ∈ placings a es, 0 ≤ p)
    (hbalanced : ∀ e ∈ es, e.toBlock.Balanced) :
    Indented a (layFrom a es) ↔ ∀ e ∈ es, e.toBlock.Indented := by
  induction es generalizing a with
  | nil => simp [layFrom, indented_nil]
  | cons e es ih =>
    rw [placings_cons, List.forall_mem_cons] at hlevels
    obtain ⟨he, hes⟩ := List.forall_mem_cons.1 hbalanced
    have hbraces : braces (e.toBlock.lines.filter (·.text != "")) =
        e.toBlock.before + e.toBlock.after := by
      rw [braces_filter_ne_empty]
      exact he
    have hblock : Indented a ((e.toBlock.lines.filter (·.text != "")).map fun l =>
        ⟨a + e.toBlock.before + l.level, l.text⟩) ↔ e.toBlock.Indented := by
      have hraise := indented_raise (a + e.toBlock.before) (-e.toBlock.before)
        (e.toBlock.lines.filter (·.text != ""))
      rwa [Int.add_neg_cancel_right] at hraise
    simp only [layFrom, Int.max_eq_left hlevels.1]
    rw [indented_append, braces_raise, hbraces, ← Int.add_assoc, ih hlevels.2 hes, hblock,
      List.forall_mem_cons]

end Layout

namespace Export

/-! ## Tests -/

theorem mem_of_mem_lay {es : List Emission} {l : Line} (h : l ∈ Layout.lay es) :
    ∃ e ∈ es, ∃ m ∈ e.toBlock.lines, l.text = m.text := by
  have htext : l.text ∈ Layout.texts es := by
    rw [← Layout.map_text_layFrom 0 es]
    exact List.mem_map_of_mem h
  obtain ⟨hmem, _⟩ := List.mem_filter.1 htext
  obtain ⟨e, he, hl⟩ := List.mem_flatMap.1 hmem
  obtain ⟨m, hm, hml⟩ := List.mem_map.1 hl
  exact ⟨e, he, m, hm, hml.symm⟩

/-- In a test without errors, no step is placed at a negative level. -/
theorem nonneg_placings {known : Option (List String)} {t : TestCase} {es : List Emission}
    (hlint : ∀ i ∈ Lint.lint known t, i.problem.severity ≠ .error)
    (hemitted : List.Forall₂ (fun s e => ∃ c, (Registry.default.emit c s).1 = .ok e)
      (generated Registry.default t.commands) es) :
    ∀ p ∈ Layout.placings 0 es, 0 ≤ p := by
  have hkeep : ∀ name, Role.of name ≠ .plain → Registry.default.canEmit name = true :=
    fun _ h => Registry.canEmit_default.2 (Command.exists_standard_of_role h)
  obtain ⟨tree, hnames⟩ := Lint.exists_tree_of_lint hkeep hlint
  have hshifts : List.Forall₂ (fun role x => x.toBlock.Shifts role)
      (tree.names.map Role.of) es := by
    rw [hnames, Lint.keptNames, List.map_map, List.forall₂_map_left_iff]
    refine hemitted.imp ?_
    rintro s x ⟨c, h⟩
    exact Registry.shifts_emit h
  have hplaced : Layout.placings 0 es = (tree.levels 0).map Int.ofNat :=
    (Layout.placings_eq hshifts (Layout.Places.tree 0 tree)).1
  intro p hp
  rw [hplaced] at hp
  obtain ⟨n, _, rfl⟩ := List.mem_map.1 hp
  exact Int.natCast_nonneg n

/-- The blocks of known steps are balanced and closed, and they are all indented if and only if no
step that shifts the level opens a window. -/
theorem indented_emissions {ss : List Step} {es : List Emission}
    (hemitted : List.Forall₂ (fun s e => ∃ c, (Registry.default.emit c s).1 = .ok e) ss es)
    (hknown : ∀ s ∈ ss, Registry.default.canEmit s.name = true)
    (hkeys : ∀ s ∈ ss, s.name = "sendKeys" →
      Closed 0 (Keys.arguments (Keys.split s.value))) :
    (∀ e ∈ es, e.toBlock.Balanced ∧ ∀ l ∈ e.toBlock.lines, ∃ k, Closed k l.text) ∧
      ((∀ e ∈ es, e.toBlock.Indented) ↔
        ∀ s ∈ ss, s.opensWindow = true → Role.of s.name = .plain) := by
  induction hemitted with
  | nil => simp
  | @cons s e ss es hemit _ ih =>
    obtain ⟨c, hemit⟩ := hemit
    obtain ⟨hs, hss⟩ := List.forall_mem_cons.1 hknown
    obtain ⟨hskeys, hsskeys⟩ := List.forall_mem_cons.1 hkeys
    obtain ⟨hbalanced, hclosed, hindented⟩ := Registry.indented_emit hemit hs hskeys
    obtain ⟨hrest, hiff⟩ := ih hss hsskeys
    refine ⟨List.forall_mem_cons.2 ⟨⟨hbalanced, hclosed⟩, hrest⟩, ?_⟩
    rw [List.forall_mem_cons, List.forall_mem_cons, hindented, hiff]

/-- When the check finds no error in a test that is exported, and its key input is closed, all lines
of the test are closed, and they are indented by their braces if and only if no step that opens,
continues or closes a block opens a window. -/
theorem indented_lay_iff {known : Option (List String)} {config : Config} {t : TestCase}
    {context : Context} {e : ExportedTest}
    (hlint : ∀ i ∈ Lint.lint known t, i.problem.severity ≠ .error)
    (hexport : (test Registry.default config t context).result = .ok e)
    (hkeys : ∀ s ∈ generated Registry.default t.commands, s.name = "sendKeys" →
      Closed 0 (Keys.arguments (Keys.split s.value))) :
    ∃ emissions,
      (steps Registry.default config.strict t.name 1 t.commands context).result =
        .ok ⟨emissions, e.skipped⟩ ∧
      bodyLines config emissions = .ok e.lines ∧
      (∀ l ∈ Layout.lay emissions, ∃ k, Closed k l.text) ∧
      (Indented 0 (Layout.lay emissions) ↔
        ∀ s ∈ generated Registry.default t.commands,
          s.opensWindow = true → Role.of s.name = .plain) := by
  obtain ⟨emissions, hsteps, hlines⟩ := test_eq_ok hexport
  have hemitted := emissions_of_steps hsteps
  have hlevels := nonneg_placings hlint hemitted
  have hknown : ∀ s ∈ generated Registry.default t.commands,
      Registry.default.canEmit s.name = true := by
    intro s hs
    have hkept := (List.mem_filter.1 hs).2
    simp only [Bool.and_eq_true] at hkept
    exact hkept.2
  obtain ⟨hblocks, hindented⟩ := indented_emissions hemitted hknown hkeys
  refine ⟨emissions, hsteps, hlines, ?_, ?_⟩
  · intro l hl
    obtain ⟨x, hx, m, hm, htext⟩ := mem_of_mem_lay hl
    rw [htext]
    exact (hblocks x hx).2 m hm
  · rw [← hindented]
    exact Layout.indented_layFrom hlevels fun x hx => (hblocks x hx).1

/-- Plain steps that open windows, inside blocks. -/
def nestedTest : TestCase where
  name := "nested"
  commands := [
    { name := "if", script := some ⟨"ready", []⟩ },
    { name := "sendKeys", target := "id=q", value := "a$\x7bKEY_ENTER\x7d", opensWindow := true,
      windowHandleName := "found" },
    { name := "forEach", target := "rows", value := "row" },
    { name := "close", opensWindow := true },
    { name := "end" },
    { name := "end" }]

/-- The lines of the test, indented. -/
def nestedLines : List String := [
  "if ((bool) $I->executeJS('return (ready);')) \x7b",
  "    $this->vars['windowHandles'] = $this->windowHandles($I);",
  "    $I->pressKey(WebDriverBy::id('q'), 'a', WebDriverKeys::ENTER);",
  "    $this->vars['found'] = $this->waitForWindow($I, 2);",
  "    foreach ($this->vars['rows'] as $item) \x7b",
  "        $this->vars['row'] = $item;",
  "        $this->vars['windowHandles'] = $this->windowHandles($I);",
  "        $I->closeTab();",
  "        $this->waitForWindow($I, 2);",
  "    \x7d",
  "\x7d"]

theorem indented_lay_nestedTest :
    ∃ emissions,
      (steps Registry.default false "nested" 1 nestedTest.commands {}).result =
        .ok ⟨emissions, []⟩ ∧
      bodyLines Config.default emissions = .ok nestedLines ∧
      Indented 0 (Layout.lay emissions) := by
  have hexport : (test Registry.default Config.default nestedTest {}).result =
      .ok ⟨"nested", "nested", nestedLines, []⟩ :=
    toOption_eq_some.1 (by decide +kernel)
  have hlint : ∀ i ∈ Lint.lint none nestedTest, i.problem.severity ≠ .error := by
    decide +kernel
  have hgenerated : generated Registry.default nestedTest.commands = nestedTest.commands := by
    decide +kernel
  have htyped : ∀ s ∈ nestedTest.commands, s.name = "sendKeys" →
      Keys.split s.value = [.literal "a", .key "ENTER"] := by
    decide +kernel
  have hkeys : ∀ s ∈ generated Registry.default nestedTest.commands, s.name = "sendKeys" →
      Closed 0 (Keys.arguments (Keys.split s.value)) := by
    intro s hs hname
    rw [hgenerated] at hs
    refine Keys.closed_of_identifiers fun k hk => ?_
    rw [htyped s hs hname] at hk
    obtain rfl : k = "ENTER" := by simpa using hk
    decide +kernel
  have hwindows : ∀ s ∈ generated Registry.default nestedTest.commands,
      s.opensWindow = true → Role.of s.name = .plain := by
    rw [hgenerated]
    decide
  obtain ⟨emissions, hsteps, hlines, _, hindented⟩ := indented_lay_iff hlint hexport hkeys
  exact ⟨emissions, hsteps, hlines, hindented.2 hwindows⟩

/-- An `if` that opens a window itself. -/
def openingTest : TestCase where
  name := "opening"
  commands := [
    { name := "if", script := some ⟨"ready", []⟩, opensWindow := true },
    { name := "end" }]

/-- The lines of the test; the wait for the window is inside the block, but at the level of its
first line. -/
def openingLines : List Line := [
  ⟨0, "$this->vars['windowHandles'] = $this->windowHandles($I);"⟩,
  ⟨0, "if ((bool) $I->executeJS('return (ready);')) \x7b"⟩,
  ⟨0, "$this->waitForWindow($I, 2);"⟩,
  ⟨0, "\x7d"⟩]

theorem not_indented_openingTest :
    (∀ i ∈ Lint.lint none openingTest, i.problem.severity ≠ .error) ∧
    (test Registry.default Config.default openingTest {}).result =
      .ok ⟨"opening", "opening", openingLines.map (·.text), []⟩ ∧
    ∃ emissions,
      (steps Registry.default false "opening" 1 openingTest.commands {}).result =
        .ok ⟨emissions, []⟩ ∧
      Layout.lay emissions = openingLines ∧ ¬Indented 0 (Layout.lay emissions) := by
  have hlint : ∀ i ∈ Lint.lint none openingTest, i.problem.severity ≠ .error := by
    decide +kernel
  have hexport : (test Registry.default Config.default openingTest {}).result =
      .ok ⟨"opening", "opening", openingLines.map (·.text), []⟩ :=
    toOption_eq_some.1 (by decide +kernel)
  have hbody : (steps Registry.default false "opening" 1 openingTest.commands {}).result.map
      (fun body => (Layout.lay body.emissions, body.skipped)) = .ok (openingLines, []) :=
    toOption_eq_some.1 (by decide +kernel)
  obtain ⟨⟨emissions, skipped⟩, hsteps, hlaid⟩ := map_eq_ok.1 hbody
  obtain ⟨hlines, rfl⟩ := Prod.mk.inj hlaid
  refine ⟨hlint, hexport, emissions, hsteps, hlines, fun h => ?_⟩
  have hwait := h (openingLines.take 2) ⟨0, "$this->waitForWindow($I, 2);"⟩ [⟨0, "\x7d"⟩] hlines
  revert hwait
  decide +kernel

end Export

end CestExport
