import CestExport.Proofs.Command.Timed
import CestExport.Proofs.Export.Strict
import CestExport.Proofs.Export.Written

/-!
# Where the export of a test fails

A test that cannot be exported fails at a step that its run comes to, and the failure
gives the position of this step.  Only two numbers of the settings get in the way: the
time to wait, where it stands for a blank one, and the width of an indentation.  If
they are out of range, all that is known is that they are.

    s.Overflows c.settings  →  default.emit c s = (.error .timeoutTooLarge, c)  (emit_of_overflows)
    every failure gives a position  ↔  no step that the run comes to overflows, and
      the lines of the body can be indented                           (positioned_iff)
-/

namespace CestExport

open Number

/-! ## Algorithm -/

/-- A step that waits for an element as long as the settings say, for a number of seconds that is
too large. -/
structure Step.Overflows (settings : Settings) (s : Step) : Prop where
  waits : s.name ∈ Wait.forElement.map (·.1)
  located : ∃ element, Locator.resolve s.target = .ok element
  blank : Text.trim s.value = ""
  large : overflowBound ≤ |(settings.waitTimeout : ℚ)|

/-- The failure of a test gives the position of the step at which its run stops. -/
def Export.Positioned (config : Config) (t : TestCase) (c : Context) (failure : ExportFailure) :
    Prop :=
  ∃ before s cause c', Reaches Registry.default config.strict c t.commands before s ∧
    StopsAt Registry.default config.strict t.name (before.length + 1)
      (contextBehind Registry.default c before) s failure c' ∧
    failure = .step t.name (before.length + 1) s.name cause

/-! ## Numbers that are too large -/

theorem Failure.kind_eq_overflow {f : Failure} : f.kind = .overflow ↔ f = .timeoutTooLarge := by
  cases f <;> simp [kind]

theorem Duration.wholeSeconds_eq_error {i : Int} {f : Failure} (h : wholeSeconds i = .error f) :
    overflowBound ≤ |(i : ℚ)| := by
  by_contra hlt
  obtain ⟨m, e, hwhole, -⟩ := exists_wholeSeconds (not_le.1 hlt)
  rw [hwhole] at h
  cases h

theorem ExportFailure.ofStep_of_ne {test : String} {n : Nat} {s : Step} {f : Failure}
    (h : f.kind ≠ .overflow) : ofStep test n s f = .step test n s.name f := by
  unfold ofStep
  split
  next hkind => exact absurd hkind h
  next => rfl

namespace Registry

/-- Only a step that waits for an element can fail for a number that is too large. -/
theorem overflows_of_emit {c c' : Context} {s : Step} {f : Failure}
    (h : default.emit c s = (.error f, c')) (hf : f.kind = .overflow) :
    s.Overflows c.settings := by
  obtain ⟨e, he, hfails | htimeout⟩ := emit_eq_error h
  · obtain ⟨standard, hstandard, hname, rfl⟩ := find?_default he
    have hgenerator := map_eq_error.1 hfails
    rcases Command.expected_or_forElement hstandard with hexpected | ⟨hwaits, statement, hwait⟩
    · exact absurd hf (hexpected c.settings s f hgenerator).2
    · rw [hwait] at hgenerator
      rcases Command.locatorAndTimeout_eq_error (map_eq_error.1 hgenerator) with hkind |
        ⟨hlocated, hblank, hlarge⟩
      · exact absurd hf hkind.2
      · exact ⟨hname ▸ hwaits, hlocated, hblank, Duration.wholeSeconds_eq_error hlarge⟩
  · exact absurd hf (Window.expected_timeout s f htimeout).2

/-- A step that waits too long is known, and fails for the number. -/
theorem emit_of_overflows {c : Context} {s : Step} (h : s.Overflows c.settings) :
    default.canEmit s.name = true ∧ default.emit c s = (.error .timeoutTooLarge, c) := by
  obtain ⟨hwaits, ⟨element, helement⟩, hblank, hlarge⟩ := h
  obtain ⟨p, hp, hname⟩ := List.mem_map.1 hwaits
  obtain ⟨g, hg, hgenerator⟩ := Command.find?_forElement p hp
  have hfind := find?_of_find hname.symm hg
  have hseconds : (Duration.text s.value).seconds c.settings.waitTimeout =
      .error .timeoutTooLarge := by
    rw [Duration.seconds, Duration.wholeSeconds_of_overflow hlarge]
    exact bind_eq_error.2 (.inr ⟨_, rfl, by rw [if_pos hblank]; rfl⟩)
  have hfails : g.generator c.settings s = .error .timeoutTooLarge := by
    rw [hgenerator]
    exact map_eq_error.2 (bind_eq_error.2 (.inr ⟨element, helement,
      bind_eq_error.2 (.inl hseconds)⟩))
  refine ⟨by rw [canEmit_eq, hfind]; rfl, ?_⟩
  simp only [emit, hfind, Generator.emitter, hfails]
  rfl

/-- The settings stay the same. -/
theorem settings_emit (c : Context) (s : Step) :
    (default.emit c s).2.settings = c.settings := by
  rcases emit_cases c s with ⟨_, h⟩ | ⟨_, _, _, ⟨f, h⟩ | ⟨d, _, h⟩⟩
  · rw [h]
  · rw [h]
  · have hsettle : (d.settle c).2.settings = c.settings := by
      cases d <;> simp only [Draft.settle] <;> split <;> rfl
    rw [h, ← hsettle]
    rcases finish_cases s (d.settle c).1 (d.settle c).2 with ⟨_, h⟩ | ⟨_, _, _, _, h⟩ | ⟨_, h⟩ <;>
      rw [h]

theorem settings_contextAfter (c : Context) (ss : List Step) :
    (default.contextAfter c ss).settings = c.settings := by
  induction ss generalizing c with
  | nil => rfl
  | cons s rest ih => rw [contextAfter, ih, settings_emit]

end Registry

namespace Export

open Registry

theorem settings_contextBehind (c : Context) (ss : List Step) :
    (contextBehind default c ss).settings = c.settings :=
  settings_contextAfter c _

/-! ## Failures of a test -/

section

variable {config : Config} {t : TestCase} {c : Context}

theorem not_positioned_range {cause : Failure} : ¬Positioned config t c (.range cause) := by
  rintro ⟨_, _, _, _, _, _, hstep⟩
  cases hstep

theorem not_positioned_indent : ¬Positioned config t c .indent := by
  rintro ⟨_, _, _, _, _, _, hstep⟩
  cases hstep

/-- A run that fails gives the position of the step at which it stops, unless this step overflows. -/
theorem positioned_of_steps {failure : ExportFailure}
    (h : (steps default config.strict t.name 1 t.commands c).result = .error failure) :
    Positioned config t c failure ∨ failure = .range .timeoutTooLarge ∧
      ∃ before s, Reaches default config.strict c t.commands before s ∧
        s.Overflows c.settings := by
  obtain ⟨before, s, hreaches, hstop⟩ := exists_stop h
  generalize (steps default config.strict t.name 1 t.commands c).context = c' at hstop
  rw [Nat.add_comm] at hstop
  have hstep : ∀ cause, failure = .step t.name (before.length + 1) s.name cause →
      Positioned config t c failure :=
    fun cause hcause => ⟨before, s, cause, c', hreaches, hstop, hcause⟩
  cases hstop with
  | missed => exact .inl (hstep _ rfl)
  | @fails f _ hknown hemit =>
    -- a failure of this kind, and no other, loses its position on the way out of the run
    by_cases hkind : f.kind = .overflow
    · have hlarge := overflows_of_emit hemit hkind
      rw [settings_contextBehind] at hlarge
      rw [Failure.kind_eq_overflow.1 hkind]
      exact .inr ⟨rfl, before, s, hreaches, hlarge⟩
    · exact .inl (hstep f (ExportFailure.ofStep_of_ne hkind))

/-- A run that comes to a step which overflows fails without a position. -/
theorem steps_of_overflows {before : List Step} {s : Step}
    (hreaches : Reaches default config.strict c t.commands before s)
    (hlarge : s.Overflows c.settings) :
    (steps default config.strict t.name 1 t.commands c).result =
      .error (.range .timeoutTooLarge) := by
  rw [← settings_contextBehind c before] at hlarge
  obtain ⟨hknown, hemit⟩ := emit_of_overflows hlarge
  exact steps_of_stop hreaches (.fails hknown hemit)

theorem exists_bodyLines_eq_ok {es : List Emission} :
    (∃ lines, bodyLines config es = .ok lines) ↔
      ∀ l ∈ Layout.lay es, Layout.IsWidth (config.indent * l.level) := by
  simp only [bodyLines, mapError_eq_ok]
  exact Layout.exists_indent_eq_ok

/-- All that can make the export of a test fail: its steps fail, or their lines cannot be
indented. -/
theorem test_eq_error_iff {method : String} (hmethod : Php.identifier? t.name = some method)
    {failure : ExportFailure} : (test default config t c).result = .error failure ↔
      (steps default config.strict t.name 1 t.commands c).result = .error failure ∨
      failure = .indent ∧ ∃ body,
        (steps default config.strict t.name 1 t.commands c).result = .ok body ∧
          ∃ l ∈ Layout.lay body.emissions, ¬Layout.IsWidth (config.indent * l.level) := by
  cases hsteps : (steps default config.strict t.name 1 t.commands c).result with
  | error f => simp [test, hmethod, hsteps]
  | ok body =>
    have hindent : (∃ lines, bodyLines config body.emissions = .ok lines) ↔ _ :=
      exists_bodyLines_eq_ok
    cases hlines : bodyLines config body.emissions with
    | error f =>
      obtain rfl := bodyLines_eq_error hlines
      have hwide : ∃ l ∈ Layout.lay body.emissions, ¬Layout.IsWidth (config.indent * l.level) := by
        by_contra hnone
        obtain ⟨lines, hok⟩ := hindent.2 fun l hl =>
          by_contra fun hwide => hnone ⟨l, hl, hwide⟩
        rw [hlines] at hok
        cases hok
      simp [test, hmethod, hsteps, hlines, hwide, eq_comm]
    | ok lines =>
      have hwidth := hindent.1 ⟨lines, hlines⟩
      have hnone : ¬∃ l ∈ Layout.lay body.emissions, ¬Layout.IsWidth (config.indent * l.level) := by
        rintro ⟨l, hl, hwide⟩
        exact hwide (hwidth l hl)
      simp [test, hmethod, hsteps, hlines, hnone]

/-- Whenever the export of a test fails, its failure gives the position of the step at which the run
stops, if and only if no step that the run comes to waits too long, and all lines of the body can be
indented.  Otherwise it is such a step or such a line that the export fails for. -/
theorem positioned_iff (hname : ∃ x ∈ t.name.toList, Php.isNameChar x = true) :
    ((∀ failure, (test default config t c).result = .error failure →
        Positioned config t c failure) ↔
      (∀ before s, Reaches default config.strict c t.commands before s →
        ¬s.Overflows c.settings) ∧
      ∀ body, (steps default config.strict t.name 1 t.commands c).result = .ok body →
        ∀ l ∈ Layout.lay body.emissions, Layout.IsWidth (config.indent * l.level)) ∧
    ∀ failure, (test default config t c).result = .error failure →
      Positioned config t c failure ∨ failure = .range .timeoutTooLarge ∨ failure = .indent := by
  obtain ⟨method, hmethod⟩ : ∃ method, Php.identifier? t.name = some method := by
    rw [← Option.ne_none_iff_exists', ne_eq, Php.identifier?_eq_none, Php.nameChars,
      List.filter_eq_nil_iff]
    obtain ⟨x, hx, hchar⟩ := hname
    exact fun hnone => hnone x hx hchar
  have hcases := @test_eq_error_iff config t c method hmethod
  -- what would escape has no position, so each number that is out of range refutes the left side
  refine ⟨⟨fun hall => ⟨fun before s hreaches hlarge => ?_, fun body hbody l hl => ?_⟩, ?_⟩, ?_⟩
  · have hfails := hcases.2 (.inl (steps_of_overflows hreaches hlarge))
    exact not_positioned_range (hall _ hfails)
  · by_contra hwide
    have hfails := hcases.2 (.inr ⟨rfl, body, hbody, l, hl, hwide⟩)
    exact not_positioned_indent (hall _ hfails)
  · rintro ⟨hwaits, hwidth⟩ failure hfails
    rcases hcases.1 hfails with hsteps | ⟨rfl, body, hbody, l, hl, hwide⟩
    · refine (positioned_of_steps hsteps).resolve_right ?_
      rintro ⟨-, before, s, hreaches, hlarge⟩
      exact hwaits before s hreaches hlarge
    · exact absurd (hwidth body hbody l hl) hwide
  · intro failure hfails
    rcases hcases.1 hfails with hsteps | ⟨hindent, -⟩
    · exact (positioned_of_steps hsteps).imp_right fun hlarge => .inl hlarge.1
    · exact .inr (.inr hindent)

end

/-- The settings wait for thirty seconds, and the lines are indented by four spaces. -/
theorem positioned_iff_missingTest :
    (∃ x ∈ missingTest.name.toList, Php.isNameChar x = true) ∧
    (test default Config.default missingTest {}).result =
      .error (.step "missing" 5 "click" .locatorEmpty) ∧
    Positioned Config.default missingTest {} (.step "missing" 5 "click" .locatorEmpty) := by
  have hname : ∃ x ∈ missingTest.name.toList, Php.isNameChar x = true := ⟨'m', by decide, rfl⟩
  have hfails : (test default Config.default missingTest {}).result =
      .error (.step "missing" 5 "click" .locatorEmpty) := by
    decide +kernel
  have hthirty := (isBinary64_of_lt (show 30 < 2 ^ 53 by norm_num)).lt_overflowBound
  refine ⟨hname, hfails, (positioned_iff hname).1.2 ⟨fun before s _ hlarge => ?_, ?_⟩ _ hfails⟩
  · exact absurd hlarge.large (not_le.2 hthirty)
  · intro body hbody
    rw [steps_of_test hfails] at hbody
    cases hbody

/-- A time to wait that is too large, and an indentation that is too wide. -/
theorem not_positioned_outOfRange :
    let waiting : TestCase :=
      { name := "t", commands := [{ name := "waitForElementPresent", target := "id=a" }] }
    let long := { Config.default with waitTimeout := 10 ^ 400 }
    let nested : TestCase :=
      { name := "t", commands := [{ name := "if" }, { name := "close" }, { name := "end" }] }
    let wide := { Config.default with indent := 2 ^ 63 }
    (∃ x ∈ "t".toList, Php.isNameChar x = true) ∧
    (test default long waiting (start long none)).result = .error (.range .timeoutTooLarge) ∧
    ¬Positioned long waiting (start long none) (.range .timeoutTooLarge) ∧
    (test default wide nested (start wide none)).result = .error .indent ∧
    ¬Positioned wide nested (start wide none) .indent := by
  intro waiting long nested wide
  exact ⟨⟨'t', by decide, rfl⟩, by decide +kernel, not_positioned_range, by decide +kernel,
    not_positioned_indent⟩

end Export

end CestExport
