import CestExport.Proofs.Command.Standard
import CestExport.Proofs.Php.Assignment

/-!
# Commands leave assignments to the scope

A command that assigns a variable drafts the assignment, so that the context comes
to know of it.  The lines that commands write themselves assign nothing: none of
them begins as a read of a variable does.

    c ∈ standard  →  c.generator is Quiet                               (quiet_of_mem_standard)
    d.Quiet  →  the lines of (d.settle c).1 assign d.names                   (assigns_settle)
-/

namespace CestExport

open Php

/-! ## Algorithm -/

/-- Whether a line of an emission assigns the variable with a name. -/
def Emission.Assigns (e : Emission) (name : String) : Prop :=
  ∃ l ∈ e.toBlock.lines, Php.Assigns l.text name

/-- The variables that a draft assigns. -/
def Draft.names : Draft → List String
  | assign name _ | iterate _ name => if name = "" then [] else [name]
  | ready _ | repeated _ _ => []

/-- A draft whose own lines assign nothing. -/
def Draft.Quiet : Draft → Prop
  | ready e => ∀ l ∈ e.toBlock.lines, Unread l.text
  | assign _ _ | iterate _ _ | repeated _ _ => True

/-- A computation whose draft is quiet. -/
def Quiet (x : Except Failure Draft) : Prop :=
  ∀ d, x = .ok d → d.Quiet

/-- A generator whose drafts are quiet. -/
def Generator.Quiet (g : Generator) : Prop :=
  ∀ settings step, CestExport.Quiet (g settings step)

/-! ## Drafts -/

namespace Draft

theorem quiet_nothing : (ready .nothing).Quiet := by
  intro l hl
  cases hl

theorem quiet_statement {text : String} (h : Unread text) : (statement text).Quiet := by
  intro l hl
  obtain rfl := List.mem_singleton.1 hl
  exact h

theorem quiet_lines {ls : List (Int × String)} (h : ∀ l ∈ ls, Unread l.2) : (lines ls).Quiet := by
  intro l hl
  obtain ⟨x, hx, rfl⟩ := List.mem_map.1 hl
  exact h x hx

/-- The lines around a handle begin with a brace, the handle or its release. -/
theorem quiet_held {handle : String} (acquire : String) {body : List (Int × String)}
    (hhandle : Unread handle) (hbody : ∀ l ∈ body, Unread l.2) :
    (held handle acquire body).Quiet := by
  have hopen : Unread "\x7b" := ⟨rfl, rfl⟩
  have hclose : Unread "\x7d" := ⟨rfl, rfl⟩
  have hacquired : Unread s!"{handle} = {acquire};" :=
    ((hhandle.append " = ").append acquire).append ";"
  have hreleased : Unread s!"unset({handle});" :=
    unread_template "unset(" [handle] [");"] ⟨rfl, rfl⟩
  refine quiet_lines ?_
  simp only [List.forall_mem_append, List.forall_mem_cons, List.forall_mem_map, List.not_mem_nil,
    false_implies, implies_true, and_true]
  exact ⟨⟨⟨hopen, hacquired⟩, hbody⟩, hreleased, hclose⟩

/-- Settled, a quiet draft assigns the variables that it names, and no others. -/
theorem assigns_settle {d : Draft} (h : d.Quiet) (context : Context) (n : String) :
    (d.settle context).1.Assigns n ↔ n ∈ d.names := by
  cases d with
  | ready e =>
    refine iff_of_false ?_ (by simp [names])
    rintro ⟨l, hl, hassigns⟩
    exact (h l hl).not_assigns n hassigns
  | assign name expression =>
    by_cases hname : name = ""
    · simp [settle, names, hname, Emission.Assigns, Emission.toBlock]
    · simp [settle, names, hname, Emission.Assigns, Emission.toBlock, assigns_assignment]
  | iterate collection name =>
    have hopening : ¬Php.Assigns s!"foreach ({collection} as $item) \x7b" n :=
      (unread_template "foreach (" [collection] [" as $item) \x7b"] ⟨rfl, rfl⟩).not_assigns n
    by_cases hname : name = ""
    · simp [settle, names, hname, Emission.Assigns, Emission.toBlock, hopening]
    · simp [settle, names, hname, Emission.Assigns, Emission.toBlock, hopening,
        assigns_assignment]
  | repeated id count =>
    have hopening : ¬Php.Assigns (countedLoop (counter id context.counters).1 count) n :=
      (unread_template "for (" [_, _, count, _] [" = 0; ", " < ", "; ", "++) \x7b"]
        ⟨rfl, rfl⟩).not_assigns n
    simp [settle, names, Emission.Assigns, Emission.toBlock, hopening]

end Draft

/-! ## Computations -/

namespace Quiet

variable {α : Type}

theorem ok {d : Draft} (h : d.Quiet) : Quiet (.ok d) := by
  intro d' hd'
  cases hd'
  exact h

theorem error (f : Failure) : Quiet (.error f) := by
  intro d hd
  cases hd

theorem map {x : Except Failure α} {f : α → Draft} (h : ∀ a, x = .ok a → (f a).Quiet) :
    Quiet (x.map f) := by
  intro d hd
  obtain ⟨a, ha, rfl⟩ := map_eq_ok.1 hd
  exact h a ha

theorem bind {x : Except Failure α} {f : α → Except Failure Draft}
    (h : ∀ a, x = .ok a → Quiet (f a)) : Quiet (x >>= f) := by
  intro d hd
  obtain ⟨a, ha, hd⟩ := bind_eq_ok.1 hd
  exact h a ha d hd

end Quiet

namespace Command

theorem unread_element : Unread "$element" := ⟨rfl, rfl⟩

theorem unread_findElement (by_ : String) : Unread s!"$this->findElement($I, {by_})" :=
  unread_template "$this->findElement($I, " [by_] [")"] ⟨rfl, rfl⟩

theorem unread_found {locator element : String} (h : found locator = .ok element) :
    Unread element := by
  obtain ⟨by_, _, rfl⟩ := map_eq_ok.1 h
  exact unread_findElement by_

theorem unread_selenium (action : String) : Unread (selenium action) :=
  unread_template "$I->executeInSelenium(fn (RemoteWebDriver $webDriver) => " [action] [");"]
    ⟨rfl, rfl⟩

theorem unread_scriptCall (script : Script) (method body : String) :
    Unread (script.call method body) := by
  unfold Script.call
  split
  next => exact unread_template "$I->" [method, quote body] ["(", ")"] unread_tester
  next =>
    exact unread_template "$I->" [method, quote body, script.arguments] ["(", ", ", ")"]
      unread_tester

theorem quiet_withElement (locator : String) {body : List (Int × String)}
    (h : ∀ l ∈ body, Unread l.2) : Quiet (withElement locator body) :=
  .map fun element _ => Draft.quiet_held element unread_element h

/-! ## Navigation -/

theorem quiet_openUrl : openUrl.Quiet :=
  fun _ _ => .ok (Draft.quiet_statement
    (unread_template "$I->amOnUrl(" [_] [");"] ⟨rfl, rfl⟩))

theorem quiet_close : close.Quiet :=
  fun _ _ => .ok (Draft.quiet_statement ⟨rfl, rfl⟩)

theorem quiet_setWindowSize : setWindowSize.Quiet :=
  fun _ _ => .map fun (w, h) _ => Draft.quiet_statement
    (unread_template "$I->resizeWindow(" [Number.decimal w, Number.decimal h] [", ", ");"]
      ⟨rfl, rfl⟩)

theorem quiet_selectWindow : selectWindow.Quiet := by
  intro settings step
  refine .map fun address _ => ?_
  cases address with
  | handle v | name v =>
    exact Draft.quiet_statement
      (unread_template "$I->switchToWindow(" [text v] [");"] ⟨rfl, rfl⟩)
  | serial n =>
    exact Draft.quiet_statement
      (unread_template "$I->switchToWindow(" [Window.allHandles, n] ["[", "]);"] ⟨rfl, rfl⟩)

theorem quiet_selectFrame : selectFrame.Quiet := by
  intro settings step
  refine .bind fun address _ => ?_
  cases address with
  | relative value => exact .ok (Draft.quiet_statement (unread_selenium _))
  | index n => exact .ok (Draft.quiet_statement (unread_selenium _))
  | locator l => exact quiet_withElement l (by simp [unread_selenium])

/-! ## Actions -/

theorem unread_waitClickable (by_ : String) : Unread s!"$I->waitForElementClickable({by_});" :=
  unread_template "$I->waitForElementClickable(" [by_] [");"] ⟨rfl, rfl⟩

theorem quiet_clickWith (method : String) : (clickWith method).Quiet := by
  intro settings step
  refine .map fun by_ _ => Draft.quiet_lines ?_
  have hclick : Unread s!"$I->{method}({by_});" :=
    unread_template "$I->" [method, by_] ["(", ");"] unread_tester
  simp only [List.forall_mem_cons, List.not_mem_nil, false_implies, implies_true, and_true]
  exact ⟨unread_waitClickable by_, hclick⟩

theorem quiet_pointer (action : String) : (pointer action).Quiet :=
  fun _ step => quiet_withElement step.target (by simp [unread_selenium])

theorem quiet_mouseOut : mouseOut.Quiet :=
  fun _ _ => .ok (Draft.quiet_held _ unread_element (by simp [unread_selenium]))

theorem quiet_clickIf (condition : String) : (clickIf condition).Quiet := by
  intro settings step
  refine .map fun by_ _ => Draft.quiet_held _ unread_element ?_
  have hif : Unread s!"if ({condition}) \x7b" :=
    unread_template "if (" [condition] [") \x7b"] ⟨rfl, rfl⟩
  simp only [List.forall_mem_cons, List.not_mem_nil, false_implies, implies_true, and_true]
  exact ⟨unread_waitClickable by_, hif, ⟨rfl, rfl⟩, ⟨rfl, rfl⟩⟩

theorem quiet_submit : submit.Quiet :=
  fun _ _ => .map fun _ hfound => Draft.quiet_statement ((unread_found hfound).append _)

theorem quiet_sendKeys : sendKeys.Quiet :=
  fun _ step => .map fun by_ _ => Draft.quiet_statement
    (unread_template "$I->pressKey(" [by_, Keys.arguments (Keys.split step.value)] [", ", ");"]
      ⟨rfl, rfl⟩)

theorem quiet_typeText : typeText.Quiet :=
  fun _ step => .map fun by_ _ => Draft.quiet_statement
    (unread_template "$I->fillField(" [by_, text step.value] [", ", ");"] ⟨rfl, rfl⟩)

theorem quiet_editContent : editContent.Quiet := by
  intro settings step
  have hedit : Unread s!"$I->executeJS({quote editScript}, [$element, {text step.value}]);" :=
    unread_template "$I->executeJS(" [quote editScript, text step.value] [", [$element, ", "]);"]
      ⟨rfl, rfl⟩
  exact quiet_withElement step.target (by simpa using hedit)

theorem quiet_select : select.Quiet := by
  intro settings step
  refine .bind fun choice _ => .bind fun element _ => .ok (Draft.quiet_held element ⟨rfl, rfl⟩ ?_)
  have hclick : Unread s!"$dropdown->findElement({choice})->click();" :=
    unread_template "$dropdown->findElement(" [choice] [")->click();"] ⟨rfl, rfl⟩
  simpa using hclick

theorem quiet_dragAndDrop : dragAndDrop.Quiet :=
  fun _ _ => .bind fun dragged _ => .bind fun dropped _ => .ok (Draft.quiet_statement
    (unread_template "$I->dragAndDrop(" [dragged, dropped] [", ", ");"] ⟨rfl, rfl⟩))

/-! ## Assertions -/

theorem quiet_assertVariable : assertVariable.Quiet :=
  fun _ step => .ok (Draft.quiet_statement
    (unread_template "$I->assertEquals(" [text step.value, read step.target] [", ", ");"]
      ⟨rfl, rfl⟩))

theorem quiet_assertAlert : assertAlert.Quiet :=
  fun _ step => .ok (Draft.quiet_statement
    (unread_template "$I->assertEquals(" [text step.target, alert] [", ", "->getText());"]
      ⟨rfl, rfl⟩))

theorem quiet_assertChecked : assertChecked.Quiet :=
  fun _ _ => .map fun element _ => Draft.quiet_statement
    (unread_template "$I->assertTrue(" [element] ["->isSelected());"] ⟨rfl, rfl⟩)

theorem quiet_assertNotChecked : assertNotChecked.Quiet :=
  fun _ _ => .map fun element _ => Draft.quiet_statement
    (unread_template "$I->assertFalse(" [element] ["->isSelected());"] ⟨rfl, rfl⟩)

theorem quiet_assertEditable : assertEditable.Quiet := by
  intro settings step
  have hassert : Unread s!"$I->assertTrue({isEditable});" :=
    unread_template "$I->assertTrue(" [isEditable] [");"] ⟨rfl, rfl⟩
  exact quiet_withElement step.target (by simpa using hassert)

theorem quiet_assertNotEditable : assertNotEditable.Quiet := by
  intro settings step
  have hassert : Unread s!"$I->assertFalse({isEditable});" :=
    unread_template "$I->assertFalse(" [isEditable] [");"] ⟨rfl, rfl⟩
  exact quiet_withElement step.target (by simpa using hassert)

theorem quiet_countElements {assertion : String} (h : Unread assertion) :
    (countElements assertion).Quiet :=
  fun _ _ => .map fun _ _ => Draft.quiet_held _ ⟨rfl, rfl⟩ (by simpa using h)

theorem quiet_assertText : assertText.Quiet :=
  fun _ step => .map fun element _ => Draft.quiet_statement
    (unread_template "$I->assertEquals(" [text step.value, element] [", ", "->getText());"]
      ⟨rfl, rfl⟩)

theorem quiet_assertNotText : assertNotText.Quiet := by
  intro settings step
  have hassert : Unread s!"$I->assertNotEquals({text step.value}, $text);" :=
    unread_template "$I->assertNotEquals(" [text step.value] [", $text);"] ⟨rfl, rfl⟩
  exact .map fun element _ => Draft.quiet_held _ ⟨rfl, rfl⟩ (by simpa using hassert)

theorem quiet_compareValue (method : String) : (compareValue method).Quiet := by
  intro settings step
  have hassert : Unread s!"$I->{method}({text step.value}, $value);" :=
    unread_template "$I->" [method, text step.value] ["(", ", $value);"] unread_tester
  exact .map fun element _ => Draft.quiet_held _ ⟨rfl, rfl⟩ (by simpa using hassert)

theorem quiet_assertSelectedLabel : assertSelectedLabel.Quiet := by
  intro settings step
  refine .map fun element _ => Draft.quiet_lines ?_
  have helement : Unread s!"$element = {element};" :=
    unread_template "$element = " [element] [";"] ⟨rfl, rfl⟩
  have hassert : Unread s!"$I->assertEquals({text step.value}, $selectedText);" :=
    unread_template "$I->assertEquals(" [text step.value] [", $selectedText);"] ⟨rfl, rfl⟩
  simp only [List.forall_mem_cons, List.not_mem_nil, false_implies, implies_true, and_true]
  exact ⟨⟨rfl, rfl⟩, helement, ⟨rfl, rfl⟩, ⟨rfl, rfl⟩, ⟨rfl, rfl⟩, hassert, ⟨rfl, rfl⟩,
    ⟨rfl, rfl⟩⟩

theorem quiet_assertTitle : assertTitle.Quiet :=
  fun _ step => .ok (Draft.quiet_statement
    (unread_template "$I->assertEquals(" [text step.target, title] [", ", ");"] ⟨rfl, rfl⟩))

/-! ## Scripts and storage -/

/-- A draft that assigns is quiet, whatever it assigns. -/
theorem quiet_assign (name expression : String) : (Draft.assign name expression).Quiet :=
  trivial

theorem quiet_scriptResult (step : Step) {call : String} (h : Unread call) :
    (scriptResult step call).Quiet := by
  unfold scriptResult
  split
  next => exact Draft.quiet_statement (h.append ";")
  next => exact quiet_assign step.value call

theorem quiet_executeScript : executeScript.Quiet :=
  fun _ step => .ok (quiet_scriptResult step (unread_scriptCall step.scriptOrTarget _ _))

theorem quiet_executeAsyncScript : executeAsyncScript.Quiet :=
  fun _ step => .ok (quiet_scriptResult step (unread_scriptCall step.scriptOrTarget _ _))

theorem quiet_runScript : runScript.Quiet :=
  fun _ step => .ok (Draft.quiet_statement
    ((unread_scriptCall step.scriptOrTarget _ _).append ";"))

theorem quiet_run : run.Quiet := by
  intro settings step
  unfold run
  split
  next method hmethod =>
    exact .ok (Draft.quiet_statement (unread_call (isNameChar_of_mem_identifier? hmethod)))
  next => exact .error _

theorem quiet_store : store.Quiet :=
  fun _ _ => .ok (quiet_assign _ _)

theorem quiet_storeIn (name : String) (expression : Except Failure String) :
    Quiet (storeIn name expression) := by
  unfold storeIn
  split
  next => exact .ok Draft.quiet_nothing
  next => exact .map fun e _ => quiet_assign name e

theorem quiet_storeText : storeText.Quiet :=
  fun _ step => quiet_storeIn step.value _

theorem quiet_storeValue : storeValue.Quiet :=
  fun _ step => quiet_storeIn step.value _

theorem quiet_storeAttribute : storeAttribute.Quiet :=
  fun _ step => quiet_storeIn step.value _

theorem quiet_storeTitle : storeTitle.Quiet :=
  fun _ _ => .ok (quiet_assign _ _)

theorem quiet_storeJson : storeJson.Quiet :=
  fun _ _ => .ok (quiet_assign _ _)

theorem quiet_storeWindowHandle : storeWindowHandle.Quiet :=
  fun _ _ => .ok (quiet_assign _ _)

theorem quiet_storeXpathCount : storeXpathCount.Quiet :=
  fun _ step => quiet_storeIn step.value _

/-! ## Waiting, dialogs and messages -/

theorem quiet_waitWith (method : String) : (waitWith method).Quiet :=
  fun _ _ => .map fun (by_, seconds) _ => Draft.quiet_statement
    (unread_template "$I->" [method, by_, seconds] ["(", ", ", ");"] unread_tester)

theorem quiet_waitUntilNot (condition : String) : (waitUntilNot condition).Quiet :=
  fun _ _ => .map fun _ _ => Draft.quiet_statement (unread_selenium _)

theorem quiet_waitForText : waitForText.Quiet :=
  fun _ step => .bind fun by_ _ => .bind fun seconds _ => .ok (Draft.quiet_statement
    (unread_template "$I->waitForText(" [text step.value, seconds, by_] [", ", ", ", ");"]
      ⟨rfl, rfl⟩))

theorem quiet_answerPrompt : answerPrompt.Quiet := by
  intro settings step
  have hanswer : Unread s!"$alert->sendKeys({text step.target});" :=
    unread_template "$alert->sendKeys(" [text step.target] [");"] ⟨rfl, rfl⟩
  refine .ok (Draft.quiet_held _ ⟨rfl, rfl⟩ ?_)
  simp only [List.forall_mem_cons, List.not_mem_nil, false_implies, implies_true, and_true]
  exact ⟨hanswer, ⟨rfl, rfl⟩⟩

theorem quiet_cancelDialog : cancelDialog.Quiet :=
  fun _ _ => .ok (Draft.quiet_statement ⟨rfl, rfl⟩)

theorem quiet_acceptDialog : acceptDialog.Quiet :=
  fun _ _ => .ok (Draft.quiet_statement ⟨rfl, rfl⟩)

theorem quiet_echo : echo.Quiet :=
  fun _ step => .ok (Draft.quiet_statement
    (unread_template "$I->comment(" [text step.target] [");"] ⟨rfl, rfl⟩))

theorem quiet_pause : pause.Quiet :=
  fun _ _ => .map fun seconds _ => Draft.quiet_statement
    (unread_template "$I->wait(" [seconds] [");"] ⟨rfl, rfl⟩)

theorem quiet_skip : skip.Quiet :=
  fun _ _ => .ok Draft.quiet_nothing

/-! ## Branches and loops -/

theorem quiet_bracket {text : String} (h : Unread text) (before after : Int) :
    Quiet (bracket text before after) := by
  refine .ok ?_
  intro l hl
  obtain rfl := List.mem_singleton.1 hl
  exact h

theorem quiet_beginIf : beginIf.Quiet :=
  fun _ step => quiet_bracket
    (unread_template "if (" [condition step] [") \x7b"] ⟨rfl, rfl⟩) 0 1

theorem quiet_elseIf : elseIf.Quiet :=
  fun _ step => quiet_bracket
    (unread_template "\x7d elseif (" [condition step] [") \x7b"] ⟨rfl, rfl⟩) (-1) 1

theorem quiet_otherwise : otherwise.Quiet :=
  fun _ _ => quiet_bracket ⟨rfl, rfl⟩ (-1) 1

theorem quiet_endBlock : endBlock.Quiet :=
  fun _ _ => quiet_bracket ⟨rfl, rfl⟩ (-1) 0

theorem quiet_beginDo : beginDo.Quiet :=
  fun _ _ => quiet_bracket ⟨rfl, rfl⟩ 0 1

theorem quiet_repeatIf : repeatIf.Quiet :=
  fun _ step => quiet_bracket
    (unread_template "\x7d while (" [condition step] [");"] ⟨rfl, rfl⟩) (-1) 0

theorem quiet_beginWhile : beginWhile.Quiet :=
  fun _ step => quiet_bracket
    (unread_template "while (" [condition step] [") \x7b"] ⟨rfl, rfl⟩) 0 1

theorem quiet_forEach : forEach.Quiet :=
  fun _ _ => .ok trivial

theorem quiet_times : times.Quiet :=
  fun _ _ => .map fun _ _ => trivial

/-! ## All commands -/

theorem quiet_of_mem_navigation : ∀ c ∈ navigation, c.generator.Quiet := by
  simp only [navigation, List.forall_mem_cons, List.not_mem_nil, false_implies, implies_true,
    and_true]
  exact ⟨quiet_openUrl, quiet_close, quiet_setWindowSize, quiet_selectWindow, quiet_selectFrame⟩

theorem quiet_of_mem_actions : ∀ c ∈ actions, c.generator.Quiet := by
  simp only [actions, List.forall_mem_cons, List.not_mem_nil, false_implies, implies_true,
    and_true]
  exact ⟨quiet_clickWith _, quiet_clickWith _, quiet_clickWith _, quiet_clickWith _,
    quiet_pointer _, quiet_pointer _, quiet_pointer _, quiet_pointer _, quiet_pointer _,
    quiet_pointer _, quiet_pointer _, quiet_mouseOut, quiet_clickIf _, quiet_clickIf _,
    quiet_submit, quiet_sendKeys, quiet_typeText, quiet_editContent, quiet_select, quiet_select,
    quiet_select, quiet_dragAndDrop⟩

theorem quiet_of_mem_assertions : ∀ c ∈ assertions, c.generator.Quiet := by
  simp only [assertions, List.forall_mem_cons, List.not_mem_nil, false_implies, implies_true,
    and_true]
  exact ⟨quiet_assertVariable, quiet_assertAlert, quiet_assertAlert, quiet_assertAlert,
    quiet_assertChecked, quiet_assertNotChecked, quiet_assertEditable, quiet_assertNotEditable,
    quiet_countElements ⟨rfl, rfl⟩, quiet_countElements ⟨rfl, rfl⟩, quiet_assertText,
    quiet_assertNotText, quiet_compareValue _, quiet_compareValue _, quiet_compareValue _,
    quiet_assertSelectedLabel, quiet_assertTitle⟩

theorem quiet_of_mem_scripts : ∀ c ∈ scripts, c.generator.Quiet := by
  simp only [scripts, List.forall_mem_cons, List.not_mem_nil, false_implies, implies_true,
    and_true]
  exact ⟨quiet_executeScript, quiet_executeAsyncScript, quiet_runScript, quiet_run⟩

theorem quiet_of_mem_storage : ∀ c ∈ storage, c.generator.Quiet := by
  simp only [storage, List.forall_mem_cons, List.not_mem_nil, false_implies, implies_true,
    and_true]
  exact ⟨quiet_store, quiet_storeText, quiet_storeValue, quiet_storeAttribute, quiet_storeTitle,
    quiet_storeJson, quiet_storeWindowHandle, quiet_storeXpathCount⟩

theorem quiet_of_mem_waiting : ∀ c ∈ waiting, c.generator.Quiet := by
  simp only [waiting, List.forall_mem_cons, List.not_mem_nil, false_implies, implies_true,
    and_true]
  exact ⟨quiet_waitWith _, quiet_waitUntilNot _, quiet_waitWith _, quiet_waitWith _,
    quiet_waitWith _, quiet_waitUntilNot _, quiet_waitForText⟩

theorem quiet_of_mem_dialogs : ∀ c ∈ dialogs, c.generator.Quiet := by
  simp only [dialogs, List.forall_mem_cons, List.not_mem_nil, false_implies, implies_true,
    and_true]
  exact ⟨quiet_answerPrompt, quiet_cancelDialog, quiet_cancelDialog, quiet_acceptDialog⟩

theorem quiet_of_mem_control : ∀ c ∈ control, c.generator.Quiet := by
  simp only [control, List.forall_mem_cons, List.not_mem_nil, false_implies, implies_true,
    and_true]
  exact ⟨quiet_beginIf, quiet_elseIf, quiet_otherwise, quiet_endBlock, quiet_beginDo,
    quiet_repeatIf, quiet_beginWhile, quiet_forEach, quiet_times⟩

theorem quiet_of_mem_miscellany : ∀ c ∈ miscellany, c.generator.Quiet := by
  simp only [miscellany, List.forall_mem_cons, List.not_mem_nil, false_implies, implies_true,
    and_true]
  exact ⟨quiet_echo, quiet_pause⟩

theorem quiet_of_mem_silent : ∀ c ∈ silent, c.generator.Quiet := by
  simp only [silent, List.forall_mem_cons, List.not_mem_nil, false_implies, implies_true,
    and_true]
  exact ⟨quiet_skip, quiet_skip, quiet_skip, quiet_skip, quiet_skip, quiet_skip⟩

theorem quiet_of_mem_primary : ∀ c ∈ primary, c.generator.Quiet := by
  simp only [primary, List.forall_mem_append]
  exact ⟨⟨⟨⟨⟨⟨⟨⟨⟨quiet_of_mem_navigation, quiet_of_mem_actions⟩, quiet_of_mem_assertions⟩,
    quiet_of_mem_scripts⟩, quiet_of_mem_storage⟩, quiet_of_mem_waiting⟩, quiet_of_mem_dialogs⟩,
    quiet_of_mem_control⟩, quiet_of_mem_miscellany⟩, quiet_of_mem_silent⟩

/-- No standard command assigns a variable behind the back of the scope. -/
theorem quiet_of_mem_standard {c : Standard} (hc : c ∈ standard) : c.generator.Quiet :=
  generator_of_mem_standard quiet_of_mem_primary hc

end Command

end CestExport
