import CestExport.Proofs.Command.Standard
import CestExport.Window

/-!
# What commands fail for

Steps fail for what is recorded in them: a locator, an address, a number.  The
failure that stands for a command which is not supported is left to the export
itself, which asks the registry before it generates a step.  Only a number of the
settings can be too large, and only where it stands for a blank waiting time.

    c ∈ standard  →  c.generator is Expected, or c waits for an element   (expected_or_forElement)
    c ∈ standard  →  c.generator settings step is Supported         (supported_of_mem_standard)
-/

namespace CestExport

/-! ## Algorithm -/

/-- A computation that fails for what is recorded only: neither for a command that is not supported
nor for a number that is too large. -/
def Expected {α : Type} (x : Except Failure α) : Prop :=
  ∀ f, x = .error f → f.kind ≠ .unsupported ∧ f.kind ≠ .overflow

/-- A generator that fails for what is recorded only. -/
def Generator.Expected (g : Generator) : Prop :=
  ∀ settings step, CestExport.Expected (g settings step)

/-- A computation that does not fail for a command that is not supported. -/
def Supported {α : Type} (x : Except Failure α) : Prop :=
  ∀ f, x = .error f → f.kind ≠ .unsupported

/-- A generator that does not fail for a command that is not supported. -/
def Generator.Supported (g : Generator) : Prop :=
  ∀ settings step, CestExport.Supported (g settings step)

/-! ## Computations -/

namespace Expected

variable {α β : Type}

theorem ok (a : α) : Expected (.ok a) := by
  intro f h
  cases h

theorem error {f : Failure} (h : f.kind ≠ .unsupported ∧ f.kind ≠ .overflow) :
    Expected (.error f : Except Failure α) := by
  intro f' h'
  cases h'
  exact h

theorem map {x : Except Failure α} (h : Expected x) (f : α → β) : Expected (x.map f) :=
  fun e he => h e (map_eq_error.1 he)

theorem bind {x : Except Failure α} {f : α → Except Failure β} (h : Expected x)
    (hf : ∀ a, Expected (f a)) : Expected (x >>= f) := by
  cases x with
  | error e => exact error (h e rfl)
  | ok a => exact hf a

/-- What is wrong with a whole number is wrong with what is recorded. -/
theorem whole (x : Except Number.WholeError α) : Expected (x.mapError .whole) := by
  cases x with
  | error e => exact error (by simp [Failure.kind])
  | ok a => exact ok a

theorem ite {p : Prop} [Decidable p] {x y : Except Failure α} (hx : Expected x)
    (hy : Expected y) : Expected (if p then x else y) := by
  split
  next => exact hx
  next => exact hy

end Expected

theorem Generator.Expected.supported {g : Generator} (h : g.Expected) : g.Supported :=
  fun settings step f hf => (h settings step f hf).1

/-! ## What commands read -/

theorem expected_resolve (locator : String) : Expected (Locator.resolve locator) := by
  unfold Locator.resolve
  refine .ite (.error (by decide)) (.ite (.ok _) ?_)
  split
  next => exact .error (by simp [Failure.kind])
  next =>
    split
    next => exact .error (by simp [Failure.kind])
    next => exact .ok _

theorem expected_choice (choice : String) : Expected (Choice.resolve choice) := by
  have hindex : ∀ value, Expected (Choice.atIndex choice value) := fun _ =>
    .ite (.bind (.whole _) fun _ => .bind (.whole _) fun _ => .ok _)
      (.error (by simp [Failure.kind]))
  have hpath : Expected (Choice.path choice) :=
    .ite (.ok _) (.ite (.ok _) (.ite (.ok _) (.ite (hindex _) (.error (by simp [Failure.kind])))))
  exact .ite (.error (by decide)) (hpath.map _)

theorem expected_window (target : String) : Expected (Address.window target) := by
  have hserial : ∀ number, Expected (Address.serial target number) := fun _ =>
    .ite (.ok _) (.ite (.map (.whole _) _) (.error (by simp [Failure.kind])))
  unfold Address.window
  split
  next => exact .ok _
  next =>
    split
    next => exact .ok _
    next =>
      split
      next => exact hserial _
      next => exact .error (by simp [Failure.kind])

theorem expected_frame (target : String) : Expected (Address.frame target) := by
  have hindex : ∀ number, Expected (Address.frameIndex target number) := by
    intro number
    unfold Address.frameIndex
    split
    next => exact .ok _
    next => exact .error (by simp [Failure.kind])
  refine .ite (.ok _) (.ite (.ok _) ?_)
  split
  next => exact hindex _
  next => exact .ok _

theorem expected_written (d : Duration) : Expected d.written := by
  cases d with
  | absent => exact .ok _
  | text s => exact .ok _
  | whole n => exact .whole (Number.showWhole n)

/-- A time fails for what is recorded, or for the number that stands for it if it is blank. -/
theorem secondsOr_eq_error {d : Duration} {fallback : Except Failure Number.Binary64} {f : Failure}
    (h : d.secondsOr fallback = .error f) :
    (f.kind ≠ .unsupported ∧ f.kind ≠ .overflow) ∨
      d.written = .ok "" ∧ fallback = .error f := by
  rw [Duration.secondsOr, bind_eq_error] at h
  rcases h with h | ⟨t, ht, h⟩
  · exact .inl (expected_written d f h)
  · split at h
    next hblank =>
      rw [hblank] at ht
      exact .inr ⟨ht, map_eq_error.1 h⟩
    next =>
      split at h
      next => cases h
      next =>
        cases h
        exact .inl (by simp [Failure.kind])

/-- A blank time can only fail if the number that stands for it can. -/
theorem expected_seconds (d : Duration) : Expected (d.seconds 0) := by
  intro f h
  rcases secondsOr_eq_error h with hkind | ⟨-, hzero⟩
  · exact hkind
  · cases hzero

theorem Window.expected_timeout (step : Step) : Expected (timeout step) :=
  expected_seconds _

namespace Command

theorem expected_found (locator : String) : Expected (found locator) :=
  (expected_resolve locator).map _

theorem expected_withElement (locator : String) (body : List (Int × String)) :
    Expected (withElement locator body) :=
  (expected_found locator).map _

theorem expected_windowSize (target : String) : Expected (windowSize target) := by
  unfold windowSize
  split
  next => exact .error (by simp [Failure.kind])
  next =>
    exact .ite (.bind (.whole _) fun _ => .bind (.whole _) fun _ => .ok _)
      (.error (by simp [Failure.kind]))

theorem expected_rounds (target : String) : Expected (rounds target) := by
  unfold rounds
  split
  next => exact .ok _
  next => exact .ite (.map (.whole _) _) (.error (by simp [Failure.kind]))

theorem expected_attributeLocator (target : String) : Expected (attributeLocator target) := by
  unfold attributeLocator
  split
  next => exact .ok _
  next => exact .error (by simp [Failure.kind])

theorem expected_storeIn (name : String) {expression : Except Failure String}
    (h : Expected expression) : Expected (storeIn name expression) :=
  .ite (.ok _) (h.map _)

/-- A step that waits for an element fails for what is recorded, or because its time is blank and
the one of the settings is too large. -/
theorem locatorAndTimeout_eq_error {settings : Settings} {step : Step} {f : Failure}
    (h : locatorAndTimeout settings step = .error f) :
    (f.kind ≠ .unsupported ∧ f.kind ≠ .overflow) ∨
      (∃ element, Locator.resolve step.target = .ok element) ∧ Text.trim step.value = "" ∧
        Duration.wholeSeconds settings.waitTimeout = .error f := by
  rcases bind_eq_error.1 h with h | ⟨element, helement, h⟩
  · exact .inl (expected_resolve step.target f h)
  · rcases bind_eq_error.1 h with h | ⟨seconds, -, h⟩
    · refine (secondsOr_eq_error h).imp_right fun ⟨hblank, hlarge⟩ => ?_
      exact ⟨⟨element, helement⟩, Except.ok.inj hblank, hlarge⟩
    · cases h

/-! ## Commands that can fail -/

theorem expected_setWindowSize : setWindowSize.Expected :=
  fun _ step => (expected_windowSize step.target).map _

theorem expected_selectWindow : selectWindow.Expected :=
  fun _ step => (expected_window step.target).map _

theorem expected_selectFrame : selectFrame.Expected := by
  intro settings step
  refine .bind (expected_frame step.target) fun address => ?_
  cases address with
  | relative value => exact .ok _
  | index n => exact .ok _
  | locator l => exact expected_withElement l _

theorem expected_clickWith (method : String) : (clickWith method).Expected :=
  fun _ step => (expected_resolve step.target).map _

theorem expected_pointer (action : String) : (pointer action).Expected :=
  fun _ step => expected_withElement step.target _

theorem expected_clickIf (condition : String) : (clickIf condition).Expected :=
  fun _ step => (expected_resolve step.target).map _

theorem expected_submit : submit.Expected :=
  fun _ step => (expected_found step.target).map _

theorem expected_sendKeys : sendKeys.Expected :=
  fun _ step => (expected_resolve step.target).map _

theorem expected_typeText : typeText.Expected :=
  fun _ step => (expected_resolve step.target).map _

theorem expected_editContent : editContent.Expected :=
  fun _ step => expected_withElement step.target _

theorem expected_select : select.Expected :=
  fun _ step => .bind (expected_choice step.value) fun _ =>
    .bind (expected_found step.target) fun _ => .ok _

theorem expected_dragAndDrop : dragAndDrop.Expected :=
  fun _ step => .bind (expected_resolve step.target) fun _ =>
    .bind (expected_resolve step.value) fun _ => .ok _

theorem expected_assertChecked : assertChecked.Expected :=
  fun _ step => (expected_found step.target).map _

theorem expected_assertNotChecked : assertNotChecked.Expected :=
  fun _ step => (expected_found step.target).map _

theorem expected_assertEditable : assertEditable.Expected :=
  fun _ step => expected_withElement step.target _

theorem expected_assertNotEditable : assertNotEditable.Expected :=
  fun _ step => expected_withElement step.target _

theorem expected_countElements (assertion : String) : (countElements assertion).Expected :=
  fun _ step => (expected_resolve step.target).map _

theorem expected_assertText : assertText.Expected :=
  fun _ step => (expected_found step.target).map _

theorem expected_assertNotText : assertNotText.Expected :=
  fun _ step => (expected_found step.target).map _

theorem expected_compareValue (method : String) : (compareValue method).Expected :=
  fun _ step => (expected_found step.target).map _

theorem expected_assertSelectedLabel : assertSelectedLabel.Expected :=
  fun _ step => (expected_found step.target).map _

theorem expected_run : run.Expected := by
  intro settings step
  unfold run
  split
  next => exact .ok _
  next => exact .error (by simp [Failure.kind])

theorem expected_storeText : storeText.Expected :=
  fun _ step => expected_storeIn step.value ((expected_found step.target).map _)

theorem expected_storeValue : storeValue.Expected :=
  fun _ step => expected_storeIn step.value ((expected_found step.target).map _)

theorem expected_storeAttribute : storeAttribute.Expected :=
  fun _ step => expected_storeIn step.value
    (.bind (expected_attributeLocator step.target) fun p =>
      .bind (expected_found p.1) fun _ => .ok _)

theorem expected_storeXpathCount : storeXpathCount.Expected :=
  fun _ step => expected_storeIn step.value ((expected_resolve step.target).map _)

theorem expected_waitForText : waitForText.Expected :=
  fun _ step => .bind (expected_resolve step.target) fun _ => .bind (.whole _) fun _ => .ok _

theorem expected_times : times.Expected :=
  fun _ step => (expected_rounds (Text.trim step.target)).map _

theorem expected_pause : pause.Expected :=
  fun _ step => (expected_seconds (.text step.target)).map _

/-! ## All commands -/

/-- A generator that always drafts something. -/
theorem expected_of_total {g : Generator} {draft : Settings → Step → Draft}
    (h : g = fun settings step => .ok (draft settings step)) : g.Expected := by
  rw [h]
  exact fun settings step => .ok (draft settings step)

theorem expected_of_mem_navigation : ∀ c ∈ navigation, c.generator.Expected := by
  simp only [navigation, List.forall_mem_cons, List.not_mem_nil, false_implies, implies_true,
    and_true]
  exact ⟨expected_of_total rfl, expected_of_total rfl, expected_setWindowSize,
    expected_selectWindow, expected_selectFrame⟩

theorem expected_of_mem_actions : ∀ c ∈ actions, c.generator.Expected := by
  simp only [actions, List.forall_mem_cons, List.not_mem_nil, false_implies, implies_true,
    and_true]
  exact ⟨expected_clickWith _, expected_clickWith _, expected_clickWith _,
    expected_clickWith _, expected_pointer _, expected_pointer _, expected_pointer _,
    expected_pointer _, expected_pointer _, expected_pointer _, expected_pointer _,
    expected_of_total rfl, expected_clickIf _, expected_clickIf _, expected_submit,
    expected_sendKeys, expected_typeText, expected_editContent, expected_select,
    expected_select, expected_select, expected_dragAndDrop⟩

theorem expected_of_mem_assertions : ∀ c ∈ assertions, c.generator.Expected := by
  simp only [assertions, List.forall_mem_cons, List.not_mem_nil, false_implies, implies_true,
    and_true]
  exact ⟨expected_of_total rfl, expected_of_total rfl, expected_of_total rfl,
    expected_of_total rfl, expected_assertChecked, expected_assertNotChecked,
    expected_assertEditable, expected_assertNotEditable, expected_countElements _,
    expected_countElements _, expected_assertText, expected_assertNotText,
    expected_compareValue _, expected_compareValue _, expected_compareValue _,
    expected_assertSelectedLabel, expected_of_total rfl⟩

theorem expected_of_mem_scripts : ∀ c ∈ scripts, c.generator.Expected := by
  simp only [scripts, List.forall_mem_cons, List.not_mem_nil, false_implies, implies_true,
    and_true]
  exact ⟨expected_of_total rfl, expected_of_total rfl, expected_of_total rfl, expected_run⟩

theorem expected_of_mem_storage : ∀ c ∈ storage, c.generator.Expected := by
  simp only [storage, List.forall_mem_cons, List.not_mem_nil, false_implies, implies_true,
    and_true]
  exact ⟨expected_of_total rfl, expected_storeText, expected_storeValue,
    expected_storeAttribute, expected_of_total rfl, expected_of_total rfl,
    expected_of_total rfl, expected_storeXpathCount⟩

theorem expected_of_mem_waiting : ∀ c ∈ waiting, c.generator.Expected ∨
    c.name ∈ Wait.forElement.map (·.1) ∧ ∃ statement, c.generator = Wait.generator statement := by
  simp only [waiting, List.forall_mem_cons, List.not_mem_nil, false_implies, implies_true,
    and_true]
  exact ⟨.inr ⟨by decide, Wait.calling _, rfl⟩, .inr ⟨by decide, Wait.untilNot _, rfl⟩,
    .inr ⟨by decide, Wait.calling _, rfl⟩, .inr ⟨by decide, Wait.calling _, rfl⟩,
    .inr ⟨by decide, Wait.calling _, rfl⟩, .inr ⟨by decide, Wait.untilNot _, rfl⟩,
    .inl expected_waitForText⟩

theorem expected_of_mem_dialogs : ∀ c ∈ dialogs, c.generator.Expected := by
  simp only [dialogs, List.forall_mem_cons, List.not_mem_nil, false_implies, implies_true,
    and_true]
  exact ⟨expected_of_total rfl, expected_of_total rfl, expected_of_total rfl,
    expected_of_total rfl⟩

theorem expected_of_mem_control : ∀ c ∈ control, c.generator.Expected := by
  simp only [control, List.forall_mem_cons, List.not_mem_nil, false_implies, implies_true,
    and_true]
  exact ⟨expected_of_total rfl, expected_of_total rfl, expected_of_total rfl,
    expected_of_total rfl, expected_of_total rfl, expected_of_total rfl,
    expected_of_total rfl, expected_of_total rfl, expected_times⟩

theorem expected_of_mem_miscellany : ∀ c ∈ miscellany, c.generator.Expected := by
  simp only [miscellany, List.forall_mem_cons, List.not_mem_nil, false_implies, implies_true,
    and_true]
  exact ⟨expected_of_total rfl, expected_pause⟩

theorem expected_of_mem_silent : ∀ c ∈ silent, c.generator.Expected := by
  simp only [silent, List.forall_mem_cons, List.not_mem_nil, false_implies, implies_true,
    and_true]
  exact ⟨expected_of_total rfl, expected_of_total rfl, expected_of_total rfl,
    expected_of_total rfl, expected_of_total rfl, expected_of_total rfl⟩

/-- Apart from those that wait for an element, all commands fail for what is recorded only. -/
theorem expected_of_mem_primary {c : Standard} (hc : c ∈ primary) : c.generator.Expected ∨
    c.name ∈ Wait.forElement.map (·.1) ∧ ∃ statement, c.generator = Wait.generator statement := by
  simp only [primary, List.mem_append] at hc
  rcases hc with ((((((((h | h) | h) | h) | h) | h) | h) | h) | h) | h
  · exact .inl (expected_of_mem_navigation c h)
  · exact .inl (expected_of_mem_actions c h)
  · exact .inl (expected_of_mem_assertions c h)
  · exact .inl (expected_of_mem_scripts c h)
  · exact .inl (expected_of_mem_storage c h)
  · exact expected_of_mem_waiting c h
  · exact .inl (expected_of_mem_dialogs c h)
  · exact .inl (expected_of_mem_control c h)
  · exact .inl (expected_of_mem_miscellany c h)
  · exact .inl (expected_of_mem_silent c h)

theorem expected_or_forElement {c : Standard} (hc : c ∈ standard) : c.generator.Expected ∨
    c.name ∈ Wait.forElement.map (·.1) ∧ ∃ statement, c.generator = Wait.generator statement := by
  rcases List.mem_append.1 hc with hc | hc
  · exact expected_of_mem_primary hc
  · obtain ⟨p, hp, hpair, hgenerator⟩ := exists_primary_of_mem_secondary hc
    rw [hgenerator]
    refine .inl ((expected_of_mem_primary hp).resolve_right ?_)
    rintro ⟨hname, -⟩
    -- no `verify` command is named after one that waits for an element
    have hnames : ∀ v ∈ verifying, v.2 ∉ Wait.forElement.map (·.1) := by decide
    exact hnames _ hpair hname

theorem supported_generator (statement : String → String → String) :
    (Wait.generator statement).Supported := by
  intro settings step f hf
  rcases locatorAndTimeout_eq_error (map_eq_error.1 hf) with hkind | ⟨-, -, hlarge⟩
  · exact hkind.1
  · unfold Duration.wholeSeconds at hlarge
    split at hlarge
    next => cases hlarge
    next =>
      cases hlarge
      decide

/-- No standard command fails because it is not supported. -/
theorem supported_of_mem_standard {c : Standard} (hc : c ∈ standard) : c.generator.Supported := by
  rcases expected_or_forElement hc with hexpected | ⟨-, statement, hgenerator⟩
  · exact hexpected.supported
  · rw [hgenerator]
    exact supported_generator statement

end Command

end CestExport
