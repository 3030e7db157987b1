import CestExport.Command.Standard
import CestExport.Proofs.Command.Assertion
import CestExport.Proofs.Command.Control
import CestExport.Proofs.Command.Navigation
import CestExport.Proofs.Command.Storage
import CestExport.Proofs.Command.Waiting

/-!
# Every standard command fits its role

The commands that branch and loop have the roles that their names say; all others
leave blocks alone.  Only keys need more than that.

    c ∈ standard  →  sendKeys, or c.generator.Fits (Role.of c.name)      (fits_of_mem_standard)
    Role.of name ≠ .plain  →  name is that of a standard command      (exists_standard_of_role)
-/

namespace CestExport.Command

/-! ## Lists of commands -/

theorem fits_of_mem_navigation : ∀ c ∈ navigation, c.generator.Fits .plain := by
  simp only [navigation, List.forall_mem_cons, List.not_mem_nil, false_implies, implies_true,
    and_true]
  exact ⟨fits_openUrl, fits_close, fits_setWindowSize, fits_selectWindow, fits_selectFrame⟩

theorem fits_of_mem_actions : ∀ c ∈ actions,
    c.name = "sendKeys" ∧ c.generator = sendKeys ∨ c.generator.Fits .plain := by
  simp only [actions, List.forall_mem_cons, List.not_mem_nil, false_implies, implies_true,
    and_true]
  exact ⟨.inr fits_click, .inr fits_click, .inr fits_doubleClick, .inr fits_doubleClick,
    .inr fits_mouseDown, .inr fits_mouseDown, .inr fits_mouseUp, .inr fits_mouseUp,
    .inr fits_mouseMove, .inr fits_mouseMove, .inr fits_mouseMove, .inr fits_mouseOut,
    .inr fits_check, .inr fits_uncheck, .inr fits_submit, .inl trivial, .inr fits_typeText,
    .inr fits_editContent, .inr fits_select, .inr fits_select, .inr fits_select,
    .inr fits_dragAndDrop⟩

theorem fits_of_mem_assertions : ∀ c ∈ assertions, c.generator.Fits .plain := by
  simp only [assertions, List.forall_mem_cons, List.not_mem_nil, false_implies, implies_true,
    and_true]
  exact ⟨fits_assertVariable, fits_assertAlert, fits_assertAlert, fits_assertAlert,
    fits_assertChecked, fits_assertNotChecked, fits_assertEditable, fits_assertNotEditable,
    fits_assertElementPresent, fits_assertElementNotPresent, fits_assertText, fits_assertNotText,
    fits_assertValue, fits_assertValue, fits_assertNotSelectedValue, fits_assertSelectedLabel,
    fits_assertTitle⟩

theorem fits_of_mem_scripts : ∀ c ∈ scripts, c.generator.Fits .plain := by
  simp only [scripts, List.forall_mem_cons, List.not_mem_nil, false_implies, implies_true,
    and_true]
  exact ⟨fits_executeScript, fits_executeAsyncScript, fits_runScript, fits_run⟩

theorem fits_of_mem_storage : ∀ c ∈ storage, c.generator.Fits .plain := by
  simp only [storage, List.forall_mem_cons, List.not_mem_nil, false_implies, implies_true,
    and_true]
  exact ⟨fits_store, fits_storeText, fits_storeValue, fits_storeAttribute, fits_storeTitle,
    fits_storeJson, fits_storeWindowHandle, fits_storeXpathCount⟩

theorem fits_of_mem_waiting : ∀ c ∈ waiting, c.generator.Fits .plain := by
  simp only [waiting, List.forall_mem_cons, List.not_mem_nil, false_implies, implies_true,
    and_true]
  exact ⟨fits_waitForElementPresent, fits_waitForElementNotPresent, fits_waitForElementVisible,
    fits_waitForElementNotVisible, fits_waitForElementEditable, fits_waitForElementNotEditable,
    fits_waitForText⟩

theorem fits_of_mem_dialogs : ∀ c ∈ dialogs, c.generator.Fits .plain := by
  simp only [dialogs, List.forall_mem_cons, List.not_mem_nil, false_implies, implies_true,
    and_true]
  exact ⟨fits_answerPrompt, fits_cancelDialog, fits_cancelDialog, fits_acceptDialog⟩

theorem fits_of_mem_control : ∀ c ∈ control, c.generator.Fits (Role.of c.name) := by
  simp only [control, List.forall_mem_cons, List.not_mem_nil, false_implies, implies_true,
    and_true]
  exact ⟨fits_beginIf, fits_elseIf, fits_otherwise, fits_endBlock, fits_beginDo, fits_repeatIf,
    fits_beginWhile, fits_forEach, fits_times⟩

theorem marks_of_mem_control : ∀ c ∈ control, c.generator.Marks (mark c.name) := by
  simp only [control, List.forall_mem_cons, List.not_mem_nil, false_implies, implies_true,
    and_true]
  exact ⟨marks_beginIf, marks_elseIf, marks_otherwise, marks_endBlock, marks_beginDo,
    marks_repeatIf, marks_beginWhile, marks_forEach, marks_times⟩

theorem fits_of_mem_miscellany : ∀ c ∈ miscellany, c.generator.Fits .plain := by
  simp only [miscellany, List.forall_mem_cons, List.not_mem_nil, false_implies, implies_true,
    and_true]
  exact ⟨fits_echo, fits_pause⟩

theorem fits_of_mem_silent : ∀ c ∈ silent, c.generator.Fits .plain := by
  simp only [silent, List.forall_mem_cons, List.not_mem_nil, false_implies, implies_true,
    and_true]
  exact ⟨fits_skip, fits_skip, fits_skip, fits_skip, fits_skip, fits_skip⟩

/-! ## All commands -/

/-- Apart from the commands that branch and loop, all leave blocks alone. -/
theorem calm_of_mem_primary {c : Standard} (hc : c ∈ primary) :
    c ∈ control ∨ Role.of c.name = .plain ∧
      (c.name = "sendKeys" ∧ c.generator = sendKeys ∨ c.generator.Fits .plain) := by
  simp only [primary, List.mem_append] at hc
  rcases hc with ((((((((h | h) | h) | h) | h) | h) | h) | h) | h) | h
  · have hplain : ∀ c ∈ navigation, Role.of c.name = .plain := by decide
    exact .inr ⟨hplain c h, .inr (fits_of_mem_navigation c h)⟩
  · have hplain : ∀ c ∈ actions, Role.of c.name = .plain := by decide
    exact .inr ⟨hplain c h, fits_of_mem_actions c h⟩
  · have hplain : ∀ c ∈ assertions, Role.of c.name = .plain := by decide
    exact .inr ⟨hplain c h, .inr (fits_of_mem_assertions c h)⟩
  · have hplain : ∀ c ∈ scripts, Role.of c.name = .plain := by decide
    exact .inr ⟨hplain c h, .inr (fits_of_mem_scripts c h)⟩
  · have hplain : ∀ c ∈ storage, Role.of c.name = .plain := by decide
    exact .inr ⟨hplain c h, .inr (fits_of_mem_storage c h)⟩
  · have hplain : ∀ c ∈ waiting, Role.of c.name = .plain := by decide
    exact .inr ⟨hplain c h, .inr (fits_of_mem_waiting c h)⟩
  · have hplain : ∀ c ∈ dialogs, Role.of c.name = .plain := by decide
    exact .inr ⟨hplain c h, .inr (fits_of_mem_dialogs c h)⟩
  · exact .inl h
  · have hplain : ∀ c ∈ miscellany, Role.of c.name = .plain := by decide
    exact .inr ⟨hplain c h, .inr (fits_of_mem_miscellany c h)⟩
  · have hplain : ∀ c ∈ silent, Role.of c.name = .plain := by decide
    exact .inr ⟨hplain c h, .inr (fits_of_mem_silent c h)⟩

/-- A `verify` command is an `assert` command under another name. -/
theorem exists_primary_of_mem_secondary {c : Standard} (hc : c ∈ secondary) :
    ∃ p ∈ primary, (c.name, p.name) ∈ verifying ∧ c.generator = p.generator := by
  obtain ⟨⟨soft, hard⟩, hmem, hc⟩ := List.mem_filterMap.1 hc
  obtain ⟨p, hp, rfl⟩ := Option.map_eq_some_iff.1 hc
  have hname : p.name = hard := by simpa using List.find?_some hp
  exact ⟨p, List.mem_of_find?_eq_some hp, hname ▸ hmem, rfl⟩

/-- What holds of the generators of all commands with a definition of their own holds of the
`verify` commands too. -/
theorem generator_of_mem_standard {P : Generator → Prop} (h : ∀ c ∈ primary, P c.generator)
    {c : Standard} (hc : c ∈ standard) : P c.generator := by
  rcases List.mem_append.1 hc with hc | hc
  · exact h c hc
  · obtain ⟨p, hp, _, hgenerator⟩ := exists_primary_of_mem_secondary hc
    rw [hgenerator]
    exact h p hp

theorem calm_of_mem_standard {c : Standard} (hc : c ∈ standard) :
    c ∈ control ∨ Role.of c.name = .plain ∧
      (c.name = "sendKeys" ∧ c.generator = sendKeys ∨ c.generator.Fits .plain) := by
  rcases List.mem_append.1 hc with hc | hc
  · exact calm_of_mem_primary hc
  · obtain ⟨p, hp, hpair, hgenerator⟩ := exists_primary_of_mem_secondary hc
    have hnames : ∀ q ∈ verifying, Role.of q.1 = .plain ∧ q.2 ≠ "sendKeys" ∧
        q.2 ∉ control.map (·.name) := by decide
    obtain ⟨hsoft, hkeys, hhard⟩ := hnames _ hpair
    rcases calm_of_mem_primary hp with hcontrol | ⟨_, hsend | hfits⟩
    · exact absurd (List.mem_map_of_mem hcontrol) hhard
    · exact absurd hsend.1 hkeys
    · exact .inr ⟨hsoft, .inr (hgenerator ▸ hfits)⟩

theorem fits_of_mem_standard {c : Standard} (hc : c ∈ standard) :
    c.name = "sendKeys" ∧ c.generator = sendKeys ∨ c.generator.Fits (Role.of c.name) := by
  rcases calm_of_mem_standard hc with hcontrol | ⟨hplain, hcalm⟩
  · exact .inr (fits_of_mem_control c hcontrol)
  · rw [hplain]
    exact hcalm

theorem marks_of_mem_standard {c : Standard} (hc : c ∈ standard) (h : Role.of c.name ≠ .plain) :
    c.generator.Marks (mark c.name) := by
  rcases calm_of_mem_standard hc with hcontrol | ⟨hplain, _⟩
  · exact marks_of_mem_control c hcontrol
  · exact absurd hplain h

/-! ## Roles -/

theorem mem_control_of_role {name : String} (h : Role.of name ≠ .plain) :
    name ∈ control.map (·.name) := by
  unfold Role.of at h
  split at h
  next ho =>
    have hopeners : ∀ n ∈ Lint.openers, n ∈ control.map (·.name) := by decide
    exact hopeners name (by simpa using ho)
  next =>
    split at h
    next hb =>
      rcases (by simpa using hb : name = "elseIf" ∨ name = "else") with rfl | rfl <;> decide
    next =>
      split at h
      next hc =>
        rcases (by simpa using hc : name = "end" ∨ name = "repeatIf") with rfl | rfl <;> decide
      next => exact absurd rfl h

/-- The commands that branch and loop are standard. -/
theorem exists_standard_of_role {name : String} (h : Role.of name ≠ .plain) :
    ∃ c ∈ standard, c.name = name := by
  obtain ⟨c, hc, rfl⟩ := List.mem_map.1 (mem_control_of_role h)
  refine ⟨c, ?_, rfl⟩
  simp [standard, primary, hc]

/-- No mark begins as the statements of a window do. -/
theorem head?_mark {name : String} (h : Role.of name ≠ .plain) :
    ∃ c, (mark name).toList.head? = some c ∧ c ≠ '$' := by
  have hmarks : ∀ n ∈ control.map (·.name),
      ((mark n).toList.head?.any fun c => c != '$') = true := by decide
  have hmark := hmarks name (mem_control_of_role h)
  cases hc : (mark name).toList.head? with
  | none => simp [hc] at hmark
  | some c => exact ⟨c, rfl, by simpa [hc] using hmark⟩

end CestExport.Command
