import CestExport.Command.Assertion
import CestExport.Proofs.Command.Element

/-!
# Commands that assert leave blocks alone

Every assertion drafts closed statements, whatever is compared with whatever.
-/

namespace CestExport.Command

open Php

theorem fits_assertVariable : assertVariable.Fits .plain := by
  intro settings step d h
  cases h
  exact Draft.fits_statement (phrase_template "$I->assertEquals("
    [text step.value, read step.target] [", ", ");"] (by decide) rfl rfl
    (by simp [closed_text, closed_read]))

theorem fits_assertAlert : assertAlert.Fits .plain := by
  intro settings step d h
  cases h
  exact Draft.fits_statement (phrase_template "$I->assertEquals(" [text step.target, alert]
    [", ", "->getText());"] (by decide) rfl rfl
    (by simp [closed_text, show Closed 0 alert from rfl]))

theorem fits_assertChecked : assertChecked.Fits .plain := by
  intro settings step d h
  obtain ⟨element, hfound, rfl⟩ := map_eq_ok.1 h
  exact Draft.fits_statement (phrase_template "$I->assertTrue(" [element] ["->isSelected());"]
    (by decide) rfl rfl (by simp [(phrase_found hfound).closed]))

theorem fits_assertNotChecked : assertNotChecked.Fits .plain := by
  intro settings step d h
  obtain ⟨element, hfound, rfl⟩ := map_eq_ok.1 h
  exact Draft.fits_statement (phrase_template "$I->assertFalse(" [element] ["->isSelected());"]
    (by decide) rfl rfl (by simp [(phrase_found hfound).closed]))

theorem closed_isEditable : Closed 0 isEditable := rfl

theorem fits_assertEditable : assertEditable.Fits .plain := by
  intro settings step d h
  have hassert : Phrase s!"$I->assertTrue({isEditable});" :=
    phrase_template "$I->assertTrue(" [isEditable] [");"] (by decide) rfl rfl
      (by simp [closed_isEditable])
  exact fits_withElement h (.phrase hassert (.nil 0))

theorem fits_assertNotEditable : assertNotEditable.Fits .plain := by
  intro settings step d h
  have hassert : Phrase s!"$I->assertFalse({isEditable});" :=
    phrase_template "$I->assertFalse(" [isEditable] [");"] (by decide) rfl rfl
      (by simp [closed_isEditable])
  exact fits_withElement h (.phrase hassert (.nil 0))

theorem fits_countElements {assertion : String} (hassertion : Phrase assertion) :
    (countElements assertion).Fits .plain := by
  intro settings step d h
  obtain ⟨by_, hby, rfl⟩ := map_eq_ok.1 h
  have hfind : Closed 0 s!"$this->findElements($I, {by_})" :=
    closed_template "$this->findElements($I, " [by_] [")"] rfl rfl (by simp [closed_resolve hby])
  exact Draft.fits_held ⟨rfl, by decide, rfl⟩ hfind (.phrase hassertion (.nil 0))

theorem fits_assertElementPresent : assertElementPresent.Fits .plain :=
  have h : Phrase "$I->assertGreaterThan(0, count($elements));" := ⟨rfl, by decide, rfl⟩
  fits_countElements h

theorem fits_assertElementNotPresent : assertElementNotPresent.Fits .plain :=
  have h : Phrase "$I->assertCount(0, $elements);" := ⟨rfl, by decide, rfl⟩
  fits_countElements h

theorem fits_assertText : assertText.Fits .plain := by
  intro settings step d h
  obtain ⟨element, hfound, rfl⟩ := map_eq_ok.1 h
  exact Draft.fits_statement (phrase_template "$I->assertEquals(" [text step.value, element]
    [", ", "->getText());"] (by decide) rfl rfl
    (by simp [closed_text, (phrase_found hfound).closed]))

theorem fits_assertNotText : assertNotText.Fits .plain := by
  intro settings step d h
  obtain ⟨element, hfound, rfl⟩ := map_eq_ok.1 h
  have hassert : Phrase s!"$I->assertNotEquals({text step.value}, $text);" :=
    phrase_template "$I->assertNotEquals(" [text step.value] [", $text);"] (by decide) rfl rfl
      (by simp [closed_text])
  have htext : Phrase s!"{element}->getText()" := (phrase_found hfound).append rfl
  exact Draft.fits_held ⟨rfl, by decide, rfl⟩ htext.closed (.phrase hassert (.nil 0))

theorem fits_compareValue (method : String) (hmethod : Closed 0 method) :
    (compareValue method).Fits .plain := by
  intro settings step d h
  obtain ⟨element, hfound, rfl⟩ := map_eq_ok.1 h
  have hassert : Phrase s!"$I->{method}({text step.value}, $value);" :=
    phrase_template "$I->" [method, text step.value] ["(", ", $value);"] (by decide) rfl rfl
      (by simp [hmethod, closed_text])
  have hvalue : Phrase s!"{element}->getAttribute('value')" := (phrase_found hfound).append rfl
  exact Draft.fits_held ⟨rfl, by decide, rfl⟩ hvalue.closed (.phrase hassert (.nil 0))

theorem fits_assertValue : assertValue.Fits .plain := fits_compareValue "assertEquals" rfl

theorem fits_assertNotSelectedValue : assertNotSelectedValue.Fits .plain :=
  fits_compareValue "assertNotEquals" rfl

/-- The lines between the two braces stand one level deeper. -/
theorem fits_assertSelectedLabel : assertSelectedLabel.Fits .plain := by
  intro settings step d h
  obtain ⟨element, hfound, rfl⟩ := map_eq_ok.1 h
  have hfind : Phrase s!"$element = {element};" :=
    phrase_template "$element = " [element] [";"] (by decide) rfl rfl
      (by simp [(phrase_found hfound).closed])
  have hassert : Phrase s!"$I->assertEquals({text step.value}, $selectedText);" :=
    phrase_template "$I->assertEquals(" [text step.value] [", $selectedText);"] (by decide) rfl rfl
      (by simp [closed_text])
  have hvalue : Phrase "$value = $element->getAttribute('value');" := ⟨rfl, by decide, rfl⟩
  have hlocator : Phrase "$locator = sprintf(\"option[@value='%s']\", $value);" :=
    ⟨rfl, by decide, rfl⟩
  have hselected : Phrase
      "$selectedText = $element->findElement(WebDriverBy::xpath($locator))->getText();" :=
    ⟨rfl, by decide, rfl⟩
  have hunset : Phrase "unset($element, $value, $locator, $selectedText);" :=
    ⟨rfl, by decide, rfl⟩
  refine Draft.fits_lines (.line "\x7b" [] [] (by decide) rfl rfl (by simp) ?_)
  refine .phrase hfind (.phrase hvalue (.phrase hlocator (.phrase hselected (.phrase hassert ?_))))
  exact .phrase hunset (.line "\x7d" [] [] (by decide) rfl rfl (by simp) (.nil 0))

theorem fits_assertTitle : assertTitle.Fits .plain := by
  intro settings step d h
  cases h
  exact Draft.fits_statement (phrase_template "$I->assertEquals(" [text step.target, title]
    [", ", ");"] (by decide) rfl rfl (by simp [closed_text, show Closed 0 title from rfl]))

end CestExport.Command
